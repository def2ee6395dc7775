import Mathlib.Data.String.Basic
import ShotRecorder.Proofs.EventReading
import ShotRecorder.Settings.Configuration

/-!
What loading makes of the settings that the environment and the files of the folder give. Where the environment names
the stage, with the case of the name as it should be, the loaded settings are the given ones. Where it does not, a stage
is named there before anything is read: whatever stage the files or a variable of another spelling name is passed over,
even if there is no such stage, and all else is as given (`load_but_for_stage`).
-/
namespace ShotRecorder

namespace Folder

open String in
/-- A text without strokes is cut nowhere. -/
private theorem splitOnAux_stroke (front rest : List Char) (noStroke : '/' ∉ rest) :
    splitOnAux (ofList (front ++ rest)) "/" 0 ⟨utf8Len front⟩ 0 [] = [ofList (front ++ rest)] := by
  induction rest generalizing front with
  | nil =>
    have atEnd := (atEnd_of_valid front []).mpr rfl
    have whole := extract_of_valid [] front []
    rw [splitOnAux,if_pos atEnd]
    simpa using whole
  | cons c rest ih =>
    have inside : ¬Pos.Raw.atEnd (ofList (front ++ c :: rest)) ⟨utf8Len front⟩ :=
      fun atEnd => List.cons_ne_nil c rest ((atEnd_of_valid front _).mp atEnd)
    have other : ¬(Pos.Raw.get (ofList (front ++ c :: rest)) ⟨utf8Len front⟩ == Pos.Raw.get "/" 0) := by
      have isStroke : Pos.Raw.get "/" 0 = '/' := rfl
      rw [get_of_valid,isStroke]
      simp only [List.mem_cons,not_or] at noStroke
      simpa using Ne.symm noStroke.1
    have next : Pos.Raw.next (ofList (front ++ c :: rest)) (Pos.Raw.unoffsetBy ⟨utf8Len front⟩ 0) =
        ⟨utf8Len (front ++ [c])⟩ := by
      have same : Pos.Raw.unoffsetBy ⟨utf8Len front⟩ 0 = ⟨utf8Len front⟩ := by
        simp [Pos.Raw.unoffsetBy]
      rw [same,next_of_valid]
      simp
    rw [splitOnAux,if_neg inside,if_neg other,next]
    have moved := ih (front ++ [c]) fun member => noStroke (List.mem_cons_of_mem _ member)
    rwa [List.append_assoc,List.singleton_append] at moved

open String in
theorem parts_of_no_stroke {path : String} (noStroke : '/' ∉ path.toList) : parts path = [path] := by
  have cut := splitOnAux_stroke [] path.toList noStroke
  rw [List.nil_append,ofList_toList] at cut
  exact cut

/-- What is the name of a file in the working folder itself, and no path to anywhere else. -/
def IsPlain (name : String) : Prop :=
  '/' ∉ name.toList ∧ (name ≠ "" ∧ name ≠ "." ∧ name ≠ "..") ∧ name.utf8ByteSize ≤ 255

instance (name : String) : Decidable (IsPlain name) := inferInstanceAs (Decidable (_ ∧ _ ∧ _))

theorem root_of_plain {name : String} (plain : IsPlain name) : root name = "" := by
  have noStroke := plain.1
  unfold root
  split
  · simp_all
  · simp_all
  · simp_all
  · rfl

theorem steps_of_plain {name : String} (plain : IsPlain name) : steps name = [name] := by
  have ⟨noStroke,⟨notEmpty,notHere,_⟩,_⟩ := plain
  simp [steps,parts_of_no_stroke noStroke,notEmpty,notHere]

theorem normal_of_plain {name : String} (plain : IsPlain name) : normal name = name := by
  simp [normal,root_of_plain plain,steps_of_plain plain,plain.2.1.1]

theorem lastName_of_plain {name : String} (plain : IsPlain name) : lastName name = name := by
  rw [lastName,steps_of_plain plain]
  rfl

/-- Where a plain name leads is decided by the files' names alone. -/
theorem look_of_plain (files : Files) {name : String} (plain : IsPlain name) :
    look files name =
      match files.lookup name with
      | some bytes => .ok (name,bytes)
      | none => .error (if isFolder files [name] then .isFolder else .missing) := by
  have ⟨noStroke,⟨notEmpty,notHere,notBack⟩,short⟩ := plain
  have found : find files name = .ok [name] := by
    have within : ¬maxBytes < name.utf8ByteSize := by
      have : maxBytes = 4095 := rfl
      omega
    have here : isFolder files [] := by simp [isFolder]
    have step : advance [] name = [name] := by simp [advance,notEmpty,notHere,notBack]
    rw [find,if_neg (by simpa using notEmpty),if_neg within,outset,if_pos (root_of_plain plain),
      parts_of_no_stroke noStroke,follow,if_pos here,if_neg (by omega),step,follow]
  have same : nameOf [name] = name := by simp [nameOf]
  unfold look
  rw [found]
  cases held : files.lookup name <;> simp only [bind,Except.bind,same,held]

theorem read_of_plain {files : Files} {name : String} (plain : IsPlain name) {bytes : ByteArray}
    (held : files.lookup name = some bytes) : read files name = .ok bytes := by
  rw [read,normal_of_plain plain,look_of_plain files plain,held]

end Folder

namespace Checked

variable {α β : Type}

/-- What is made of four checks is made of the first, and of the other three with anything in its place. -/
private theorem map_seq_map {α β γ δ : Type} {τ : Type} (make : α → β → γ → δ → τ) (put : α → τ → τ) (absent : α)
    (puts : ∀ a b c d, put a (make absent b c d) = make a b c d) (a : Checked α) (b : Checked β) (c : Checked γ)
    (d : Checked δ) :
    make <$> a <*> b <*> c <*> d = put <$> a <*> (make <$> pass absent <*> b <*> c <*> d) := by
  cases a <;> cases b <;> cases c <;> cases d <;> simp [Functor.map,Seq.seq,apply,pass,puts] <;> rfl

end Checked

namespace Outlook

/-- Without arguments the files are the usual ones, and the case of names does not count. -/
@[simp] theorem ofArguments_nil : Outlook.ofArguments [] = {} := rfl

/-- The last variable of a name counts. -/
theorem find?_append (entries : VariableFile.Entries) (name value wanted : String) :
    ({} : Outlook).find? (entries ++ [(name,some value)]) wanted =
      if Small.ofText name = Small.ofText wanted then some (.string value)
      else ({} : Outlook).find? entries wanted := by
  unfold find? counted sameName
  by_cases same : Small.ofText name = Small.ofText wanted <;> simp [same]

end Outlook

namespace Sources

/-- One more variable of the environment goes before the others of its name, and before those of the files. -/
theorem ofVariables?_append (environment : VariableFile.Variables) (files : VariableFile.Entries)
    (name value wanted : String) :
    ({ environment := environment ++ [(name,value)], files } : Sources).ofVariables? wanted =
      if Small.ofText name = Small.ofText wanted then some (.string value)
      else ({ environment, files } : Sources).ofVariables? wanted := by
  unfold ofVariables?
  dsimp only
  rw [List.map_append,List.map_singleton]
  dsimp only
  rw [Outlook.find?_append]
  split <;> rfl

/-- The stage `dev` named last in the environment. -/
def withDev (environment : VariableFile.Variables) (files : VariableFile.Entries) : Sources :=
  { environment := environment ++ [(SettingName.stage.official,Stage.dev.name)], files }

theorem find?_withDev_stage (environment : VariableFile.Variables) (files : VariableFile.Entries) :
    (withDev environment files).find? .stage =
      some { value := .string Stage.dev.name, place := SettingName.stage.official } := by
  unfold find? withDev
  rw [ofVariables?_append]
  simp [ofArguments?]

/-- A name of another setting is not, in any spelling, the official one of the stage. -/
theorem other_names : ∀ name ∈ [SettingName.level,.refreshMillis,.capture],
    Small.ofText SettingName.stage.official ≠ Small.ofText name.official ∧
      Small.ofText SettingName.stage.official ≠ Small.ofText name.short := by
  decide +kernel

theorem find?_withDev_other (environment : VariableFile.Variables) (files : VariableFile.Entries) {name : SettingName}
    (other : name ∈ [SettingName.level,.refreshMillis,.capture]) :
    (withDev environment files).find? name = ({ environment, files } : Sources).find? name := by
  obtain ⟨official,short⟩ := other_names name other
  unfold find? withDev
  dsimp only
  rw [ofVariables?_append,ofVariables?_append,if_neg official,if_neg (by simpa using short)]
  rfl

end Sources

namespace Settings

/-- The stage that the environment and the entries of the files give. -/
def stageOfSources (environment : VariableFile.Variables) (files : VariableFile.Entries) : Checked Stage :=
  setting { environment, files } .stage stageOf Stage.dev

theorem setting_withDev_stage (environment : VariableFile.Variables) (files : VariableFile.Entries) :
    setting (.withDev environment files) .stage stageOf Stage.dev = .pass .dev := by
  rw [setting,Sources.find?_withDev_stage]
  rfl

theorem setting_withDev_other (environment : VariableFile.Variables) (files : VariableFile.Entries) {name : SettingName}
    (other : name ∈ [SettingName.level,.refreshMillis,.capture]) {α : Type} (check : Path → Json → Checked α)
    (absent : α) :
    setting (.withDev environment files) name check absent = setting { environment, files } name check absent := by
  rw [setting,setting,Sources.find?_withDev_other _ _ other]

/-- The stage and all else are checked apart from each other. -/
theorem ofSources_withDev (environment : VariableFile.Variables) (files : VariableFile.Entries) :
    ofSources { environment, files } =
      (fun stage settings => { settings with stage }) <$> stageOfSources environment files <*>
        ofSources (.withDev environment files) := by
  unfold ofSources stageOfSources
  dsimp only
  rw [setting_withDev_stage,setting_withDev_other _ _ (by simp),setting_withDev_other _ _ (by simp),
    setting_withDev_other _ _ (by simp)]
  exact Checked.map_seq_map Settings.mk (fun stage settings => { settings with stage }) .dev (fun _ _ _ _ => rfl)
    _ _ _ _

theorem stage_of_withDev {environment : VariableFile.Variables} {files : VariableFile.Entries} {settings : Settings}
    (made : ofSources (.withDev environment files) = .pass settings) : settings.stage = .dev := by
  unfold ofSources at made
  dsimp only at made
  rw [setting_withDev_stage] at made
  simp only [Checked.seq_pass,Checked.map_pass,Checked.pass_inj] at made
  obtain ⟨_,_,⟨_,_,⟨_,_,⟨_,rfl,rfl⟩,-,rfl⟩,-,rfl⟩,-,rfl⟩ := made
  rfl

/-- If a stage is refused, there is something to complain about. -/
theorem stageOfSources_complains {environment : VariableFile.Variables} {files : VariableFile.Entries}
    {found : List Complaint} (refused : stageOfSources environment files = Except.error found) : found ≠ [] := by
  unfold stageOfSources setting at refused
  split at refused
  · unfold stageOf at refused
    dsimp only at refused
    split at refused
    · split at refused
      · cases refused
      · cases refused
        simp
    · cases refused
      simp
  · cases refused

/-- A stage put into settings whose stage is `dev` changes nothing just if it is `dev`, and settings that are refused
    are refused for the same just if the stage is not. -/
theorem put_stage_eq {stage : Checked Stage} {rest : Checked Settings}
    (complains : ∀ found, stage = Except.error found → found ≠ [])
    (dev : ∀ settings, rest = .pass settings → settings.stage = .dev) :
    rest = (fun stage settings => { settings with stage }) <$> stage <*> rest ↔
      ∃ s, stage = .pass s ∧ ((∃ settings, rest = .pass settings) → s = .dev) := by
  cases stage with
  | error found =>
    refine ⟨fun same => absurd ?_ (complains found rfl),fun ⟨s,passed,_⟩ => nomatch passed⟩
    cases rest with
    | ok settings => cases same
    | error others => exact List.self_eq_append_left.mp (Except.error.inj same)
  | ok s =>
    cases rest with
    | error others => exact ⟨fun _ => ⟨s,rfl,fun ⟨_,passed⟩ => nomatch passed⟩,fun _ => rfl⟩
    | ok settings =>
      have isDev := dev settings rfl
      constructor
      · intro same
        have unchanged : settings = { settings with stage := s } := Except.ok.inj same
        exact ⟨s,rfl,fun _ => by rw [← isDev,unchanged]⟩
      · rintro ⟨s',passed,only⟩
        obtain rfl := Except.ok.inj passed
        obtain rfl := only ⟨settings,rfl⟩
        exact congrArg Checked.pass (by rw [← isDev])

private theorem mapM_congr {α : Type} {names : List String} {f g : String → Except Fault α}
    (each : ∀ name ∈ names, f name = g name) : names.mapM f = names.mapM g := by
  induction names with
  | nil => rfl
  | cons name rest ih =>
    have ⟨first,others⟩ := List.forall_mem_cons.mp each
    rw [List.mapM_cons,List.mapM_cons,first,ih others]

/-- Files of plain names are read as they are in the folder. -/
theorem entriesOf_plain (environment : VariableFile.Variables) (folder : Folder.Files) {names : List String}
    (plain : ∀ name ∈ names, Folder.IsPlain name) :
    entriesOf environment folder names =
      (names.mapM fun name =>
        match folder.lookup name with
        | some bytes => (Encoding.textOf bytes).map (VariableFile.read environment true)
        | none => .ok []) >>= fun files => pure files.flatten := by
  unfold entriesOf
  refine congrArg (· >>= _) (mapM_congr fun name member => ?_)
  rw [Folder.normal_of_plain (plain name member),Folder.look_of_plain folder (plain name member)]
  cases folder.lookup name <;> rfl

/-- The settings that the environment and the files of a folder give. -/
theorem load_nil (environment : VariableFile.Variables) (folder : Folder.Files) :
    load [] environment folder =
      (entriesOf environment folder ({} : Outlook).files >>= fun files =>
        (ofSources { environment, files }).orFault) := by
  rw [load,Outlook.ofArguments_nil]

end Settings

namespace Configuration

/-- The settings that are given, whatever was loaded. -/
def given (c : Configuration) : Except Fault Settings := Settings.load [] c.environment c.folder

/-- The environment from which settings are loaded. -/
def named (c : Configuration) : VariableFile.Variables :=
  setDefault c.environment SettingName.stage.official Stage.dev.name

/-- The entries of the files, as an environment has them read. -/
def entries (c : Configuration) (environment : VariableFile.Variables) : Except Fault VariableFile.Entries :=
  Settings.entriesOf environment c.folder ({} : Outlook).files

theorem load_forgotten {c : Configuration} (forgotten : c.loaded = none) :
    c.load.1 = Settings.load [] c.named c.folder := by
  unfold load named
  simp only [forgotten]
  split <;> simp_all

theorem named_of_isSome {c : Configuration} (isNamed : (c.environment.lookup SettingName.stage.official).isSome) :
    c.named = c.environment := by
  obtain ⟨value,found⟩ := Option.isSome_iff_exists.mp isNamed
  simp [named,setDefault,found]

theorem named_of_none {c : Configuration} (unnamed : c.environment.lookup SettingName.stage.official = none) :
    c.named = c.environment ++ [(SettingName.stage.official,Stage.dev.name)] := by
  simp [named,setDefault,unnamed]

/-- The settings are loaded as given where the stage is named. Where it is not, `dev` is loaded, and this is what is
    given just if the stage that is given is one, and no other unless something else is refused; everything else is
    loaded as given. -/
theorem load_but_for_stage (c : Configuration) (forgotten : c.loaded = none) :
    ((c.environment.lookup SettingName.stage.official).isSome → c.load.1 = c.given) ∧
      (c.environment.lookup SettingName.stage.official = none →
        (∀ settings, c.load.1 = .ok settings → settings.stage = .dev) ∧
        (c.entries c.named = c.entries c.environment →
          (∀ settings, c.given = .ok settings → c.load.1 = .ok { settings with stage := .dev }) ∧
          (c.load.1 = c.given ↔
            ∀ files, c.entries c.environment = .ok files →
              ∃ stage, Settings.stageOfSources c.environment files = .pass stage ∧
                ((∃ settings, c.load.1 = .ok settings) → stage = .dev)))) := by
  refine ⟨fun isNamed => ?_,fun unnamed => ?_⟩
  · rw [load_forgotten forgotten,named_of_isSome isNamed,given]
  have loaded : c.load.1 = c.entries c.named >>= fun files =>
      (Settings.ofSources (.withDev c.environment files)).orFault := by
    rw [load_forgotten forgotten,Settings.load_nil,named_of_none unnamed]
    rfl
  refine ⟨fun settings found => ?_,fun alike => ?_⟩
  · rw [loaded] at found
    cases read : c.entries c.named with
    | error fault => simp [read,bind,Except.bind] at found
    | ok files =>
      rw [read] at found
      exact Settings.stage_of_withDev (Checked.orFault_ok.mp found)
  have constructed : c.given = c.entries c.environment >>= fun files =>
      (Settings.ofSources { environment := c.environment, files }).orFault := Settings.load_nil _ _
  rw [loaded,constructed,alike]
  cases c.entries c.environment with
  | error fault => exact ⟨nofun,fun _ _ => nofun,fun _ => rfl⟩
  | ok files =>
    dsimp only [bind,Except.bind]
    -- What is given is the stage of the sources put into what is loaded, which tells the two apart.
    have apart := Settings.ofSources_withDev c.environment files
    simp only [Checked.orFault_ok,Checked.orFault_inj,Except.ok.injEq,forall_eq']
    refine ⟨fun settings passed => ?_,?_⟩
    · rw [apart] at passed
      obtain ⟨put,rest,isPut,restPassed,rfl⟩ := Checked.seq_pass.mp passed
      obtain ⟨stage,-,rfl⟩ := Checked.map_pass.mp isPut
      have isDev := Settings.stage_of_withDev restPassed
      rw [restPassed]
      exact congrArg Checked.pass (by rw [← isDev])
    · rw [apart]
      exact Settings.put_stage_eq (fun _ => Settings.stageOfSources_complains) fun _ => Settings.stage_of_withDev

theorem entries_plain (c : Configuration) (environment : VariableFile.Variables) :
    c.entries environment =
      (({} : Outlook).files.mapM fun name =>
        match c.folder.lookup name with
        | some bytes => (Encoding.textOf bytes).map (VariableFile.read environment true)
        | none => .ok []) >>= fun files => pure files.flatten :=
  Settings.entriesOf_plain environment c.folder (by decide +kernel)

private theorem eq_ok_of_toOption {α : Type} {outcome : Except Fault α} {a : α} (found : outcome.toOption = some a) :
    outcome = .ok a := by
  cases outcome with
  | error fault => cases found
  | ok b => exact congrArg _ (Option.some.inj found)

/-- Where nothing is set, and no file holds variables, the defaults are loaded. -/
theorem load_of_nothing {folder : Folder.Files} (none : ∀ name ∈ ({} : Outlook).files, folder.lookup name = none) :
    ({ folder } : Configuration).load.1 = .ok {} := by
  let c : Configuration := { folder }
  have nothing : c.entries c.named = .ok [] := by
    rw [entries_plain]
    simp only [List.forall_mem_cons] at none
    obtain ⟨first,second,third,fourth,fifth,-⟩ := none
    simp [c,first,second,third,fourth,fifth,bind,Except.bind,pure,Except.pure]
  rw [load_forgotten rfl,Settings.load_nil]
  change (c.entries c.named >>= fun files => (Settings.ofSources { environment := c.named, files }).orFault) = _
  have named : c.named = [(SettingName.stage.official,Stage.dev.name)] := rfl
  rw [nothing,named]
  exact eq_ok_of_toOption (by decide +kernel)

/-- An environment and a folder with a file that names the stage `prod`. -/
private def staged (environment : VariableFile.Variables) : Configuration :=
  { environment, folder := [(".env","SHOTSTREAM_ENV=prod\nLOG_LEVEL=info\n".toUTF8)] }

private theorem staged_entries {environment : VariableFile.Variables}
    (either : environment ∈ [[],[("SHOTSTREAM_ENV","dev")]]) :
    (staged []).entries environment = .ok [("SHOTSTREAM_ENV",some "prod"),("LOG_LEVEL",some "info")] := by
  refine eq_ok_of_toOption ?_
  rw [entries_plain]
  revert environment
  decide +kernel

private theorem staged_given : (staged []).given = .ok { stage := .prod, level := .info } := by
  rw [given,Settings.load_nil]
  change (staged []).entries [] >>= _ = _
  rw [staged_entries (by decide)]
  exact eq_ok_of_toOption (by decide +kernel)

/-- The stage that a file names is given, and another one is loaded. -/
theorem stage_of_file_is_passed_over :
    (staged []).given = .ok { stage := .prod, level := .info } ∧ (staged []).load.1 = .ok { level := .info } := by
  refine ⟨staged_given,?_⟩
  rw [load_forgotten rfl,Settings.load_nil]
  change (staged []).entries [("SHOTSTREAM_ENV","dev")] >>= _ = _
  rw [staged_entries (by decide)]
  exact eq_ok_of_toOption (by decide +kernel)

/-- With the same file, the stage that the environment names is loaded, and the rest of what is given. -/
theorem load_but_for_stage_of_file :
    (staged [("SHOTSTREAM_ENV","test")]).load.1 = (staged [("SHOTSTREAM_ENV","test")]).given ∧
      (staged []).load.1 = .ok { level := .info } ∧ (staged []).load.1 ≠ (staged []).given := by
  have asNamed := (load_but_for_stage (staged [("SHOTSTREAM_ENV","test")]) rfl).1 rfl
  have alike : (staged []).entries (staged []).named = (staged []).entries (staged []).environment :=
    (staged_entries (by decide)).trans (staged_entries (by decide)).symm
  have ⟨others,_⟩ := ((load_but_for_stage (staged []) rfl).2 rfl).2 alike
  have loaded := others _ staged_given
  refine ⟨asNamed,loaded,fun same => ?_⟩
  rw [loaded,staged_given] at same
  exact absurd (Except.ok.inj same) (by decide)

end Configuration

end ShotRecorder
