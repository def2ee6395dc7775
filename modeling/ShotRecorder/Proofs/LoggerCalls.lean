import Mathlib.Data.List.Induction
import ShotRecorder.Proofs.LevelReading
import ShotRecorder.Logger

/-!
Loggers told by the calls that asked for them. A call that makes a logger ready changes that logger alone
(`find_perform`), in one of three ways (`perform_cases`), so that the level, the handlers and the propagation of every
logger can be read off the calls with its name and what they were answered (`Told.step`). The logger of a component has
a name of its own for each level (`componentName_inj`): whatever other loggers components ask for, its level stays
(`level_of_components`).
-/
namespace ShotRecorder

namespace Logger

@[simp] theorem withHandler_level (logger : Logger) : logger.withHandler.level = logger.level := by
  unfold withHandler
  split <;> rfl

@[simp] theorem withHandler_propagates (logger : Logger) : logger.withHandler.propagates = logger.propagates := by
  unfold withHandler
  split <;> rfl

theorem withHandler_handlers_le {logger : Logger} (few : logger.handlers ≤ 1) : logger.withHandler.handlers ≤ 1 := by
  unfold withHandler handled
  split
  · exact few
  · rename_i none
    simp only [decide_eq_true_eq] at none
    dsimp only
    omega

end Logger

namespace Loggers

/-! ### Registered loggers -/

theorem lookup_put (loggers : Loggers) (name other : String) (logger : Logger) :
    (loggers.put name logger).lookup other = if other = name then some logger else loggers.lookup other := by
  induction loggers with
  | nil =>
    by_cases same : other = name
    · simp [put,same]
    · simp [put,List.lookup_cons,same,beq_false_of_ne same]
  | cons first rest ih =>
    obtain ⟨n,l⟩ := first
    by_cases here : n = name
    · subst here
      by_cases same : other = n
      · simp [put,same]
      · simp [put,List.lookup_cons,same,beq_false_of_ne same]
    · by_cases same : other = n
      · simp [put,same,here]
      · simp [put,List.lookup_cons,here,beq_false_of_ne same,ih]

theorem find_put (loggers : Loggers) (name other : String) (logger : Logger) :
    (loggers.put name logger).find other = if other = name then logger else loggers.find other := by
  rw [find,lookup_put]
  split <;> rfl

/-- Registering a logger changes none. -/
theorem find_register (loggers : Loggers) (name other : String) :
    (loggers.register name).find other = loggers.find other := by
  rw [register,find_put]
  split
  · rename_i same
    rw [same]
  · rfl

/-- A logger with a level of its own has that level, whatever its ancestors have. -/
theorem effective_of_level {loggers : Loggers} {name : String} (own : (loggers.find name).level ≠ 0) :
    loggers.effective name = (loggers.find name).level := by
  simp [effective,effectiveFrom,own]

theorem effective_of_number {loggers : Loggers} {name : String} {level : Level}
    (own : (loggers.find name).level = level.number) : loggers.effective name = level.number := by
  have some : level.number ≠ 0 := by cases level <;> decide
  rw [effective_of_level (own ▸ some),own]

/-! ### Calls -/

/-- A call that asks for a logger. -/
inductive Call where
  /-- For a logger as it is. -/
  | plain (name : String)
  /-- For a logger made ready; null stands for no level. -/
  | ready (name : String) (level : Json)
  /-- For the logger of a component, made ready with the level of the settings. -/
  | component (settings : Settings) (component : String)

namespace Call

/-- The name that the logger asked for is registered under. -/
def name : Call → String
  | plain name | ready name _ => registered name
  | component settings part => registered (componentName part settings.level)

/-- The level that a call gives. -/
def level? : Call → Option Json
  | plain _ | ready _ .null => none
  | ready _ level => some level
  | component settings _ => some (.string settings.level.name)

/-- Whether a call makes a logger ready. -/
def readies : Call → Bool
  | plain _ => false
  | ready .. | component .. => true

/-- Whether a call asks for the logger of a component. -/
def ofComponent : Call → Bool
  | component .. => true
  | plain _ | ready .. => false

/-- The number of the level that a call gives, if it gives one that means something. -/
def number? (call : Call) : Option Nat := call.level?.bind fun v => (Level.numberOfJson v).toOption

end Call

/-- What a call answers, and the loggers after it. -/
def perform (loggers : Loggers) : Call → Except Fault Unit × Loggers
  | .plain name => (.ok (), loggers.register (registered name))
  | .ready name .null => loggers.configure name none
  | .ready name level => loggers.configure name (some level)
  | .component settings part => loggers.configureComponent settings part

/-- The loggers after calls, one after the other. -/
def after (loggers : Loggers) (calls : List Call) : Loggers :=
  calls.foldl (fun loggers call => (loggers.perform call).2) loggers

/-- Calls in order, and what each of them was answered. -/
def answers (loggers : Loggers) : List Call → List (Call × Except Fault Unit)
  | [] => []
  | call :: rest => (call,(loggers.perform call).1) :: (loggers.perform call).2.answers rest

theorem after_snoc (loggers : Loggers) (calls : List Call) (call : Call) :
    loggers.after (calls ++ [call]) = ((loggers.after calls).perform call).2 := by
  rw [after,List.foldl_append]
  rfl

theorem answers_snoc (loggers : Loggers) (calls : List Call) (call : Call) :
    loggers.answers (calls ++ [call]) = loggers.answers calls ++ [(call,((loggers.after calls).perform call).1)] := by
  induction calls generalizing loggers with
  | nil => rfl
  | cons first rest ih =>
    rw [List.cons_append,answers,ih]
    rfl

/-! ### What one call does -/

/-- A logger made ready by a call, with the level that the call gives if it gives one. -/
def Call.made (call : Call) (logger : Logger) : Logger :=
  { logger.withHandler with level := call.number?.getD logger.level, propagates := false }

theorem configure_cases (loggers : Loggers) (name : String) (level? : Option Json) :
    (∃ why, loggers.configure name level? =
      (.error (.level why),loggers.put (registered name) (loggers.find (registered name)).withHandler)) ∨
    loggers.configure name level? = (.ok (),loggers.put (registered name)
      { (loggers.find (registered name)).withHandler with
        level := (level?.bind fun v => (Level.numberOfJson v).toOption).getD (loggers.find (registered name)).level
        propagates := false }) := by
  cases level? with
  | none =>
    refine .inr (Prod.ext rfl (congrArg (loggers.put (registered name)) ?_))
    simp
  | some v =>
    cases meant : Level.ofJson v with
    | error why => exact .inl ⟨why,by simp only [configure,meant]⟩
    | ok level => exact .inr (by simp [configure,meant,Level.numberOfJson,Except.map,Except.toOption])

/-- A call leaves the loggers as they are; or, if the level that it gives means nothing, it gives the logger that it
    names a handler; or it makes this logger ready. -/
theorem performs (loggers : Loggers) (call : Call) :
    (call.readies = false ∧ loggers.perform call = (.ok (),loggers.register call.name)) ∨
    (call.readies = true ∧ ∃ why, loggers.perform call =
      (.error (.level why),loggers.put call.name (loggers.find call.name).withHandler)) ∨
    (call.readies = true ∧ loggers.perform call =
      (.ok (),loggers.put call.name (call.made (loggers.find call.name)))) := by
  cases call with
  | plain name => exact .inl ⟨rfl,rfl⟩
  | ready name level =>
    have performed : loggers.perform (.ready name level) = loggers.configure name (Call.ready name level).level? := by
      cases level <;> rfl
    exact .inr ((configure_cases loggers name _).imp (⟨rfl,performed ▸ ·⟩) (⟨rfl,performed ▸ ·⟩))
  | component settings part =>
    exact .inr ((configure_cases loggers _ (some (.string settings.level.name))).imp (⟨rfl,·⟩) (⟨rfl,·⟩))

/-- A call changes no logger but the one that it names. -/
theorem find_perform (loggers : Loggers) (call : Call) {name : String} (other : name ≠ call.name) :
    (loggers.perform call).2.find name = loggers.find name := by
  rcases performs loggers call with ⟨-,performed⟩ | ⟨-,why,performed⟩ | ⟨-,performed⟩ <;> rw [performed]
  · exact find_register ..
  · exact (find_put ..).trans (if_neg other)
  · exact (find_put ..).trans (if_neg other)

/-- A call that ends with a fault may give a logger a handler, and changes nothing else. -/
theorem find_perform_of_error {loggers : Loggers} {call : Call} {fault : Fault}
    (refused : (loggers.perform call).1 = .error fault) (name : String) :
    ((loggers.perform call).2.find name).level = (loggers.find name).level ∧
      ((loggers.perform call).2.find name).propagates = (loggers.find name).propagates := by
  rcases performs loggers call with ⟨-,performed⟩ | ⟨-,why,performed⟩ | ⟨-,performed⟩
  · rw [performed] at refused
    cases refused
  · rw [performed,find_put]
    split
    · rename_i same
      simp [same]
    · exact ⟨rfl,rfl⟩
  · rw [performed] at refused
    cases refused

/-! ### Loggers told by calls -/

/-- The number of the level that a call gave the logger of a name, if it was answered. -/
def given? (name : String) : Call × Except Fault Unit → Option Nat
  | (call,.ok _) => if call.name = name then call.number? else none
  | (_,.error _) => none

/-- The number of the level that the logger of a name was given last, or zero. -/
def lastNumber (name : String) (answered : List (Call × Except Fault Unit)) : Nat :=
  (answered.reverse.findSome? (given? name)).getD 0

theorem lastNumber_snoc (name : String) (answered : List (Call × Except Fault Unit))
    (entry : Call × Except Fault Unit) :
    lastNumber name (answered ++ [entry]) = (given? name entry).getD (lastNumber name answered) := by
  rw [lastNumber,List.reverse_append,List.reverse_singleton,List.singleton_append,List.findSome?_cons]
  cases given? name entry <;> rfl

/-- A logger is as the calls and their answers tell. -/
structure Told (answered : List (Call × Except Fault Unit)) (name : String) (logger : Logger) : Prop where
  handlers : logger.handlers ≤ 1
  level : logger.level = lastNumber name answered
  propagates : logger.propagates = true ↔ ∀ call, (call,.ok ()) ∈ answered → call.readies = true → call.name ≠ name

/-- An answer that gives the logger no level and does not make it ready tells that it keeps both. -/
theorem Told.aside {answered : List (Call × Except Fault Unit)} {name : String} {was is : Logger}
    (told : Told answered name was) {entry : Call × Except Fault Unit} (nothing : given? name entry = none)
    (apart : ∀ call, entry = (call,.ok ()) → call.readies = true → call.name ≠ name) (few : is.handlers ≤ 1)
    (level : is.level = was.level) (propagates : is.propagates = was.propagates) :
    Told (answered ++ [entry]) name is := by
  refine ⟨few,?_,?_⟩
  · rw [lastNumber_snoc,nothing,level]
    exact told.level
  · rw [propagates,told.propagates]
    simp only [List.mem_append,List.mem_singleton]
    constructor
    · rintro before call (among | same) readies
      · exact before call among readies
      · exact apart call same.symm readies
    · exact fun all call among => all call (.inl among)

theorem Call.number?_of_plain {call : Call} (plain : call.readies = false) : call.number? = none := by
  cases call <;> first | rfl | cases plain

/-- One more call, and its answer, tell of the loggers after it. -/
theorem Told.step {answered : List (Call × Except Fault Unit)} {name : String} {loggers : Loggers}
    (told : Told answered name (loggers.find name)) (call : Call) :
    Told (answered ++ [(call,(loggers.perform call).1)]) name ((loggers.perform call).2.find name) := by
  by_cases here : name = call.name
  · subst here
    rcases performs loggers call with ⟨plain,performed⟩ | ⟨-,why,performed⟩ | ⟨readies,performed⟩ <;> rw [performed]
    · refine told.aside ?_ ?_ ?_ ?_ ?_
      · rw [given?,if_pos rfl,Call.number?_of_plain plain]
      · rintro other same readies
        obtain ⟨rfl,-⟩ := Prod.mk.inj same
        exact absurd readies (by simp [plain])
      all_goals rw [find_register]
      exact told.handlers
    · refine told.aside rfl (fun other same => nomatch (Prod.mk.inj same).2) ?_ ?_ ?_ <;> rw [find_put,if_pos rfl]
      · exact Logger.withHandler_handlers_le told.handlers
      · exact Logger.withHandler_level _
      · exact Logger.withHandler_propagates _
    · rw [find_put,if_pos rfl]
      refine ⟨Logger.withHandler_handlers_le told.handlers,?_,?_⟩
      · rw [lastNumber_snoc,given?,if_pos rfl,← told.level]
        rfl
      · exact ⟨nofun,fun none => absurd rfl (none call (by simp) readies)⟩
  · rw [find_perform loggers call here]
    refine told.aside ?_ ?_ told.handlers rfl rfl
    · cases (loggers.perform call).1 with
      | ok _ => exact if_neg (Ne.symm here)
      | error _ => rfl
    · rintro other same -
      obtain ⟨rfl,-⟩ := Prod.mk.inj same
      exact Ne.symm here

/-- Loggers of which nothing has been asked yet; the root may have been given a level. -/
def Fresh (loggers : Loggers) : Prop := ∀ name ≠ rootName, loggers.find name = {}

/-- All calls and their answers tell of the loggers after them. -/
theorem Fresh.told {start : Loggers} (fresh : start.Fresh) (calls : List Call) {name : String}
    (named : name ≠ rootName) :
    Told (start.answers calls) name ((start.after calls).find name) := by
  induction calls using List.reverseRecOn with
  | nil =>
    rw [after,List.foldl_nil,fresh name named]
    exact ⟨Nat.zero_le 1,rfl,by simp [answers]⟩
  | append_singleton calls call ih =>
    rw [answers_snoc,after_snoc]
    exact ih.step call

/-! ### Loggers of components -/

private theorem eq_of_last_dot {x x' y y' : List Char} (noDot : '.' ∉ y) (noDot' : '.' ∉ y')
    (same : x ++ '.' :: y = x' ++ '.' :: y') : x = x' ∧ y = y' := by
  rcases List.append_eq_append_iff.mp same with ⟨more,longer,rest⟩ | ⟨more,longer,rest⟩
  all_goals
    rcases more with _ | ⟨c,more⟩
    · simp_all
    · obtain ⟨rfl,rfl⟩ := List.cons.inj rest
      simp at noDot noDot'

/-- The name of a level in small letters means the level too. -/
private theorem ofJson_toLower (level : Level) : (Level.ofJson (.string level.name.toLower)).toOption = some level := by
  cases level <;> decide +kernel

/-- No two components share a logger, and no two levels of a component do. -/
theorem componentName_inj {part part' : String} {level level' : Level} :
    componentName part level = componentName part' level' ↔ part = part' ∧ level = level' := by
  refine ⟨fun same => ?_,fun ⟨samePart,sameLevel⟩ => by rw [samePart,sameLevel]⟩
  have noDot : ∀ level : Level, '.' ∉ level.name.toLower.toList := fun level => by cases level <;> decide +kernel
  have spelt : part.toList ++ '.' :: level.name.toLower.toList = part'.toList ++ '.' :: level'.name.toLower.toList := by
    have whole := congrArg String.toList same
    simpa [componentName] using whole
  obtain ⟨samePart,sameLevel⟩ := eq_of_last_dot (noDot level) (noDot level') spelt
  refine ⟨String.toList_inj.mp samePart,?_⟩
  have meant := ofJson_toLower level
  rw [String.toList_inj.mp sameLevel,ofJson_toLower level'] at meant
  exact (Option.some.inj meant).symm

theorem registered_componentName (part : String) (level : Level) :
    registered (componentName part level) = componentName part level := by
  simp [registered,componentName]

/-- A component's call is answered, and its logger has the level of the settings. -/
theorem perform_component (loggers : Loggers) (settings : Settings) (part : String) :
    (loggers.perform (.component settings part)).1 = .ok () ∧
      ((loggers.perform (.component settings part)).2.find (componentName part settings.level)).level =
        settings.level.number := by
  have performed : loggers.perform (.component settings part) = (.ok (),loggers.put (componentName part settings.level)
      { (loggers.find (componentName part settings.level)).withHandler with
        level := settings.level.number, propagates := false }) := by
    simp only [perform,configureComponent,configure,Level.ofJson_name,registered_componentName]
  rw [performed,find_put,if_pos rfl]
  exact ⟨rfl,rfl⟩

/-- The logger of a component keeps its level whatever other loggers components ask for. -/
theorem level_of_components {loggers : Loggers} {part : String} {level : Level}
    (own : (loggers.find (componentName part level)).level = level.number) {calls : List Call}
    (components : ∀ call ∈ calls, call.ofComponent = true) :
    ((loggers.after calls).find (componentName part level)).level = level.number := by
  induction calls using List.reverseRecOn with
  | nil => exact own
  | append_singleton calls call ih =>
    rw [List.forall_mem_append] at components
    obtain ⟨settings,part',rfl⟩ : ∃ settings part', call = .component settings part' := by
      cases call <;> simp [Call.ofComponent] at components ⊢
    have before := ih components.1
    rw [after_snoc]
    by_cases here : componentName part level = (Call.component settings part').name
    · -- The call asks for the same logger, with the only level that its name can hold.
      have same := here.trans (registered_componentName part' settings.level)
      obtain ⟨rfl,rfl⟩ := componentName_inj.mp same
      exact (perform_component _ settings part).2
    · rw [find_perform _ _ here,before]

/-- Every logger has at most one handler, the level that it was given last by a call that was answered, and propagates
    until such a call made it ready. A call that ends with a fault changes no level and no propagation, and nothing at
    all of the loggers that it does not name. And once a component was answered, its logger logs the same as long as
    only components ask for loggers. -/
theorem loggers_keep_their_level {start : Loggers} (fresh : start.Fresh) (calls : List Call) :
    (∀ name ≠ rootName,
      ((start.after calls).find name).handlers ≤ 1 ∧
      ((start.after calls).find name).level = lastNumber name (start.answers calls) ∧
      (((start.after calls).find name).propagates = true ↔
        ∀ call, (call,.ok ()) ∈ start.answers calls → call.readies = true → call.name ≠ name)) ∧
    (∀ call fault, ((start.after calls).perform call).1 = .error fault → ∀ name,
      (((start.after calls).perform call).2.find name).level = ((start.after calls).find name).level ∧
      (((start.after calls).perform call).2.find name).propagates = ((start.after calls).find name).propagates ∧
      (name ≠ call.name → ((start.after calls).perform call).2.find name = (start.after calls).find name)) ∧
    (∀ settings part more, (∀ call ∈ more, call.ofComponent = true) →
      let answered := (start.after calls).perform (.component settings part)
      answered.1 = .ok () ∧
      answered.2.effective (componentName part settings.level) = settings.level.number ∧
      (answered.2.after more).effective (componentName part settings.level) = settings.level.number ∧
      (answered.2.after more).enabled (componentName part settings.level) =
        answered.2.enabled (componentName part settings.level)) := by
  refine ⟨fun name notRoot => ?_,fun call fault refused name => ?_,fun settings part more components => ?_⟩
  · have told := fresh.told calls notRoot
    exact ⟨told.handlers,told.level,told.propagates⟩
  · have ⟨level,propagates⟩ := find_perform_of_error refused name
    exact ⟨level,propagates,find_perform _ _⟩
  · have ⟨done,own⟩ := perform_component (start.after calls) settings part
    have now := effective_of_number own
    have later := effective_of_number (level_of_components own components)
    exact ⟨done,now,later,by rw [enabled,enabled,now,later]⟩

/-- A level that means nothing comes before one that means something, and components share fronts of their names. -/
theorem loggers_keep_their_level_of_three :
    let calls := [.ready "a.b" (.string "loud"),.plain "a",.ready "a.b" (.number (.int 4)),
      .component { level := .warn } "a",.ready "a.b" .null]
    let loggers := after [] calls
    ((loggers.find "a.b").handlers ≤ 1 ∧ (loggers.find "a.b").level = 10 ∧ (loggers.find "a").propagates = true) ∧
      ((loggers.perform (.ready "a" (.bool true))).2.find "a").level = 0 ∧
      ((loggers.perform (.component { level := .info } "a.warn")).2.after
        [.component { level := .warn } "a.info",.component { level := .debug } "a.warn"]).effective
          "shotstream.a.warn.info" = 20 := by
  intro calls loggers
  have fresh : Fresh [] := fun name notRoot => by simp [find,notRoot]
  have ⟨kept,refusals,components⟩ := loggers_keep_their_level fresh calls
  have ⟨few,level,_⟩ := kept "a.b" (by decide)
  have ⟨_,level',propagates⟩ := kept "a" (by decide)
  have plain : ∀ call, (call,Except.ok ()) ∈ answers [] calls → call.readies = true → call.name ≠ "a" := by
    have each : (answers [] calls).all
        (fun entry => !entry.2.isOk || !entry.1.readies || entry.1.name != "a") = true := by
      decide +kernel
    intro call among readies
    simpa [readies,Except.isOk,Except.toBool] using List.all_eq_true.mp each _ among
  refine ⟨⟨few,level.trans (by decide +kernel),propagates.mpr plain⟩,?_,?_⟩
  · have refused : (loggers.perform (.ready "a" (.bool true))).1 = .error (.level (.truth true)) := rfl
    exact (refusals _ _ refused "a").1.trans (level'.trans (by decide +kernel))
  · have name : componentName "a.warn" .info = "shotstream.a.warn.info" := by decide +kernel
    rw [← name]
    exact (components { level := .info } "a.warn" [.component { level := .warn } "a.info",
      .component { level := .debug } "a.warn"] (by decide)).2.2.1

end Loggers

end ShotRecorder
