import ShotRecorder.Command.Run
import ShotRecorder.Proofs.EscapedTexts
import ShotRecorder.Proofs.EventFiles
import ShotRecorder.Proofs.Replays
import ShotRecorder.Proofs.SettingsHubs

/-!
What a replay shows. The table of shots can be shown whatever the shots are (`Report.table_eq`), and a replay that can
start shows it, between the notices and the summary, with the shots of all events (`Command.run_playable`). Times of a
command line are never negative, so that a replay starts if its times have seconds and its file a name that can be
shown; otherwise there is no table (`Command.run_unplayable`).
-/
namespace ShotRecorder

/-- Only events that a producer may send are loaded. -/
theorem Event.produced_of_loaded {bytes : ByteArray} {events : List Event} (loaded : listOfFile bytes = .ok events) :
    ∀ event ∈ events, event.kind ∈ Kind.producers := by
  intro event among
  obtain ⟨_,_,_,-,denotes,-⟩ := denoted_of_loaded loaded among
  exact denotes.produced

namespace Report

/-! ### The table of shots -/

/-- What is shown of the result in a row. -/
def Row.shownResult (row : Row) : Line := (Terminal.shownText (escaped row.result).toList).toOption.getD []

/-- The cells of a row as they are shown. -/
def Row.shownCells (row : Row) (number : Nat) : List Line :=
  [Digits.write number,Digits.write row.messages,Digits.write row.snapshots,row.outcome.name.toList,row.shownResult]

theorem shownText_escaped (text : String) : ∃ shown, Terminal.shownText (escaped text).toList = .ok shown := by
  obtain ⟨_,_,-,-,-,shown⟩ := Terminal.shownText_escape text.toList
  exact ⟨_,(congrArg Terminal.shownText String.toList_ofList).trans shown⟩

theorem Row.cells_eq (row : Row) (number : Nat) : row.cells number = .ok (row.shownCells number) := by
  obtain ⟨shown,found⟩ := shownText_escaped row.result
  rw [cells,shownCells,shownResult,found]
  rfl

theorem Row.shownResult_of_literal {row : Row} (literal : Terminal.Literal row.result.toList) :
    row.shownResult = row.result.toList := by
  rw [shownResult,escaped,String.toList_ofList,Terminal.shownText_escape_of_literal literal]
  rfl

/-- The table of shots as it is shown. -/
def shownTable (log : ShotLog) : List Line :=
  Terminal.table "Shots".toList columns ((rows log).zipIdx.map fun (row,i) => row.shownCells (i + 1))

/-- Whatever the results are, the table can be shown. -/
theorem table_eq (log : ShotLog) : table log = .ok (shownTable log) := by
  have cells : ((rows log).zipIdx.mapM fun (row,i) => row.cells (i + 1)) =
      (.ok ((rows log).zipIdx.map fun (row,i) => row.shownCells (i + 1)) : Except Fault _) := by
    simp only [Row.cells_eq]
    exact List.mapM_pure
  rw [table,cells]
  rfl

end Report

namespace Command

/-! ### Times of a command line -/

/-- The times of a replay are not negative. -/
structure ReplayRequest.Timed (request : ReplayRequest) : Prop where
  delay : ∀ millis ∈ request.delayMillis, 0 ≤ millis
  interval : 0 ≤ request.intervalMillis

theorem millisOf_notNegative {options : List (Key × String)} {key : Key} {found : Option Int}
    (given : millisOf options key = .ok found) : ∀ millis ∈ found, 0 ≤ millis := by
  unfold millisOf at given
  split at given
  · rename_i word _
    unfold millisOfWord at given
    split at given
    · split at given
      · cases given
      · cases given
        simp
        omega
    · cases given
  · cases given
    simp

theorem timed_of_sorted {s : Sorted Key} {request : ReplayRequest} (asked : replayOf s = .ok (.replay request)) :
    request.Timed := by
  unfold replayOf at asked
  cases delay : millisOf s.options .delay with
  | error misuse => simp [delay,bind,Except.bind] at asked
  | ok delayMillis =>
    cases interval : millisOf s.options .interval with
    | error misuse => simp [delay,interval,bind,Except.bind] at asked
    | ok intervalMillis =>
      rw [delay,interval] at asked
      dsimp only [bind,Except.bind] at asked
      split at asked
      · cases asked
      · cases asked
        refine ⟨millisOf_notNegative delay,?_⟩
        cases intervalMillis with
        | none => exact Int.le_refl 0
        | some millis => exact millisOf_notNegative interval millis rfl
      · cases asked

theorem of_helpOr {o : Options Key} {words : List String} {other : Sorted Key → Except Misuse Request}
    {request : ReplayRequest} (asked : helpOr o words other = .ok (.replay request)) :
    ∃ s, o.sort words = .ok s ∧ other s = .ok (.replay request) := by
  unfold helpOr at asked
  cases sorted : o.sort words with
  | error misuse => simp [sorted,bind,Except.bind] at asked
  | ok s =>
    rw [sorted] at asked
    dsimp only [bind,Except.bind] at asked
    split at asked
    · cases asked
    · exact ⟨s,rfl,asked⟩

/-- No command line asks for a replay with negative times. -/
theorem timed_of_words {words : List String} {request : ReplayRequest} (asked : ofWords words = .ok (.replay request)) :
    request.Timed := by
  obtain ⟨s,-,asked⟩ := of_helpOr asked
  unfold ofCommand at asked
  split at asked
  · cases asked
  · obtain ⟨s,-,asked⟩ := of_helpOr asked
    exact timed_of_sorted asked
  · obtain ⟨s,-,asked⟩ := of_helpOr asked
    unfold schemaOf at asked
    split at asked <;> cases asked
  · obtain ⟨s,-,asked⟩ := of_helpOr asked
    cases asked

/-- Seconds of milliseconds that are not negative are a time that goes forwards. -/
theorem timely_seconds {millis : Int} (notNegative : 0 ≤ millis) {seconds : Float}
    (found : secondsOfMillis millis = .ok seconds) : Clock.IsTimely (.float seconds) := by
  obtain ⟨n,rfl⟩ := Int.eq_ofNat_of_zero_le notNegative
  rcases Nat.lt_or_ge n Decimal.limit with below | above
  · obtain ⟨x,made,plain⟩ := secondsOfMillis_of_lt below
    cases found.symm.trans made
    exact ⟨_,rfl,plain.timely⟩
  · cases found.symm.trans (secondsOfMillis_of_le above)

theorem ReplayRequest.Timed.delayed {request : ReplayRequest} (timed : request.Timed) {s : Settings} {seconds : Float}
    (found : delayOf request s = .ok seconds) : Clock.IsTimely (.float seconds) := by
  unfold delayOf at found
  split at found
  · rename_i millis given
    exact timely_seconds (timed.delay millis given) found
  · exact timely_seconds (Int.natCast_nonneg _) found

/-! ### Answering on a screen -/

section

variable {α β : Type}

/-- How an answer ends, and the screen it leaves. -/
def exec (answering : Answering α) (screen : Screen) : Except Ending α × Screen := answering.run.run screen

/-- What an answer that ends early has shown stays on the screen. -/
theorem exec_bind (first : Answering α) (next : α → Answering β) (screen : Screen) :
    exec (first >>= next) screen =
      match exec first screen with
      | (.ok a,screen) => exec (next a) screen
      | (.error ending,screen) => (.error ending,screen) := by
  simp only [exec,ExceptT.run_bind,StateT.run_bind]
  rcases first.run.run screen with ⟨outcome,left⟩
  cases outcome <;> rfl

theorem exec_need (found : Except Fault α) (screen : Screen) :
    exec (need found) screen = (found.mapError .fault,screen) := by
  cases found <;> rfl

theorem exec_get (screen : Screen) : exec get screen = (.ok screen,screen) := rfl

theorem exec_set (screen screen' : Screen) : exec (set screen) screen' = (.ok (),screen) := rfl

theorem exec_settings (screen : Screen) :
    exec settings screen =
      (screen.configuration.load.1.mapError .fault,{ screen with configuration := screen.configuration.load.2 }) := by
  unfold settings
  rw [exec_bind,exec_get]
  dsimp only
  rw [exec_bind,exec_set]
  exact exec_need _ _

/-- Lines are shown below those that were shown before; what cannot be shown is not. -/
theorem exec_display (found : Except Fault (List Report.Line)) (screen : Screen) :
    exec (display found) screen =
      ((found.mapError .fault).map fun _ => (),{ screen with shown := screen.shown ++ found.toOption.getD [] }) := by
  cases found with
  | ok found => rfl
  | error fault => simp [display,exec_bind,exec_need,Except.mapError,Except.map,Except.toOption]

theorem exec_giveUp (found : Except Fault (List Report.Line)) (screen : Screen) :
    ∃ ending, exec (giveUp found : Answering α) screen =
      (.error ending,{ screen with shown := screen.shown ++ found.toOption.getD [] }) := by
  unfold giveUp
  rw [exec_bind,exec_display]
  cases found <;> exact ⟨_,rfl⟩

theorem exec_eventsOf {screen : Screen} {path : String} {bytes : ByteArray} {events : List Event}
    (found : Folder.read screen.configuration.folder path = .ok bytes) (loaded : Event.listOfFile bytes = .ok events) :
    exec (eventsOf path) screen = (.ok events,screen) := by
  unfold eventsOf
  rw [exec_bind,exec_get]
  dsimp only
  rw [found]
  dsimp only [bind,Except.bind]
  rw [loaded]
  rfl

/-- Saving shots shows something more, and nothing else on the screen changes. -/
theorem exec_save (path : String) (shots : List Shot) (screen : Screen) :
    ∃ ending configuration after,
      exec (save path shots) screen = (ending,{ configuration, shown := screen.shown ++ after }) := by
  unfold save
  rw [exec_bind,exec_get]
  dsimp only
  split
  · rw [exec_bind,exec_set]
    dsimp only
    rw [exec_display]
    exact ⟨_,_,_,rfl⟩
  · rename_i number words _
    obtain ⟨ending,told⟩ := exec_giveUp (α := Unit) (Report.notSaved (Folder.normal path) (.system number words)) screen
    exact ⟨_,_,_,told⟩
  · exact ⟨_,_,[],by rw [List.append_nil]; rfl⟩

end

/-! ### Replays on a screen -/

section

variable {request : ReplayRequest}

/-- The events are replayed to the end, and the hub that is left has the shots of all of them. -/
theorem exec_play {delay interval : Float} (delayed : Clock.IsTimely (.float delay))
    (paused : Clock.IsTimely (.float interval)) (found : secondsOfMillis request.intervalMillis = .ok interval)
    {events : List Event} (produced : ∀ event ∈ events, event.kind ∈ Kind.producers) (screen : Screen) :
    ∃ hub, exec (play request delay events) screen =
        (.ok hub,{ screen with shown := screen.shown ++ Report.allNoticed (Replay.notices hub) }) ∧
      hub.shots = events.foldl ShotLog.apply {} := by
  have forward := Clock.forward_binary
  obtain ⟨now,left,-,ran,replaying,-⟩ := Replay.run_ends forward delayed paused request.echo produced
  refine ⟨left.hub,?_,replaying.shots⟩
  unfold play
  rw [Replay.start_eq forward delayed,exec_bind,exec_need]
  dsimp only [Except.mapError]
  rw [found]
  dsimp only
  rw [ran]
  dsimp only
  rw [exec_bind,exec_display]
  rfl

variable (request) in
/-- Nothing is replayed if there are no seconds of the pause between events. -/
theorem exec_play_breaks {delay : Float} (delayed : Clock.IsTimely (.float delay)) {why : Fault}
    (none : secondsOfMillis request.intervalMillis = .error why) (events : List Event) (screen : Screen) :
    ∃ ending, exec (play request delay events) screen =
      (.error ending,{ screen with shown := screen.shown ++ (Report.brokenOff why).toOption.getD [] }) := by
  unfold play
  rw [Replay.start_eq Clock.forward_binary delayed,exec_bind,exec_need]
  dsimp only [Except.mapError]
  rw [none]
  exact exec_giveUp _ screen

/-- That a replay can start: its settings are loaded, its times have seconds, and the name of its file can be shown. -/
structure Playable (configuration : Configuration) (request : ReplayRequest) : Prop where
  delay : ∃ s seconds, configuration.load.1 = .ok s ∧ delayOf request s = .ok seconds
  heading : ∃ heading, Report.heading (Folder.lastName request.file) = .ok heading
  interval : ∃ seconds, secondsOfMillis request.intervalMillis = .ok seconds

theorem folder_load (configuration : Configuration) : configuration.load.2.folder = configuration.folder := by
  unfold Configuration.load
  split
  · rfl
  · dsimp only
    split <;> rfl

/-- What a replay does below its heading. -/
def showRest (request : ReplayRequest) (delay : Float) (events : List Event) : Answering Unit := do
  let hub ← play request delay events
  display (Report.table hub.shots)
  display (.ok (Report.summary events.length hub.shots hub.scheduler.fired))
  match request.output with
  | some path => save path hub.shots.shots
  | none => pure ()

variable {configuration : Configuration}

theorem run_replay {ending : Except Ending Unit} {screen : Screen}
    (ended : exec (replay request) { configuration } = (ending,screen)) :
    let outcome := run configuration (.replay request)
    outcome.text = Report.text screen.shown ∧ (ending = .ok () → outcome.status = 0 ∧ outcome.fault = none) ∧
      (ending ≠ .ok () → outcome.status = 1) := by
  have ran : (answer (.replay request)).run.run { configuration } = (ending,screen) := ended
  unfold run
  rw [ran]
  rcases ending with why | done
  · cases why <;> exact ⟨rfl,nofun,fun _ => rfl⟩
  · exact ⟨rfl,fun _ => ⟨rfl,rfl⟩,fun failed => absurd rfl failed⟩

section

variable {words : List String} (asked : ofWords words = .ok (.replay request))
  {bytes : ByteArray} (found : Folder.read configuration.folder request.file = .ok bytes) {events : List Event}
  (loaded : Event.listOfFile bytes = .ok events)

include found loaded in
/-- The settings are loaded and the heading is shown before the events are read. -/
theorem exec_replay {s : Settings} (settled : configuration.load.1 = .ok s) {delay : Float}
    (delayed : delayOf request s = .ok delay) {heading : List Report.Line}
    (headed : Report.heading (Folder.lastName request.file) = .ok heading) :
    exec (replay request) { configuration } =
      exec (showRest request delay events) { configuration := configuration.load.2, shown := heading } := by
  let screen : Screen := { configuration := configuration.load.2, shown := heading }
  have place : Folder.read screen.configuration.folder request.file = .ok bytes := by
    rw [← found]
    exact congrArg (Folder.read · request.file) (folder_load configuration)
  unfold replay
  rw [exec_bind,exec_settings,settled]
  dsimp only [Except.mapError]
  rw [exec_bind,exec_need,delayed]
  dsimp only [Except.mapError]
  rw [exec_bind,exec_display,headed]
  dsimp only [Except.mapError,Except.map,Except.toOption,Option.getD,List.nil_append]
  rw [exec_bind,exec_eventsOf place loaded]
  rfl

include asked found loaded

/-- A replay that can start shows the table of the shots of all events, and the summary. -/
theorem run_playable (playable : Playable configuration request) :
    let outcome := run configuration (.replay request)
    let log := events.foldl ShotLog.apply {}
    ∃ heading notices refreshes after, Report.heading (Folder.lastName request.file) = .ok heading ∧
      outcome.text = Report.text (heading ++ Report.allNoticed notices ++ Report.shownTable log ++
        Report.summary events.length log refreshes ++ after) ∧
      (request.output = none → after = [] ∧ outcome.status = 0 ∧ outcome.fault = none) := by
  intro outcome log
  have timed := timed_of_words asked
  obtain ⟨⟨s,delay,settled,delayed⟩,⟨heading,headed⟩,interval,paused⟩ := playable
  obtain ⟨hub,played,shots⟩ := exec_play (timed.delayed delayed) (timely_seconds timed.interval paused) paused
    (Event.produced_of_loaded loaded) { configuration := configuration.load.2, shown := heading }
  let shown := heading ++ Report.allNoticed (Replay.notices hub) ++ Report.shownTable log ++
    Report.summary events.length log hub.scheduler.fired
  have ran : exec (replay request) { configuration } =
      exec (match request.output with
        | some path => save path hub.shots.shots
        | none => pure ()) { configuration := configuration.load.2, shown } := by
    rw [exec_replay found loaded settled delayed headed,showRest,exec_bind,played]
    dsimp only
    rw [exec_bind,exec_display,shots,Report.table_eq]
    dsimp only [Except.mapError,Except.map,Except.toOption,Option.getD]
    rw [exec_bind,exec_display]
    rfl
  refine ⟨heading,Replay.notices hub,hub.scheduler.fired,?_⟩
  cases output : request.output with
  | none =>
    rw [output] at ran
    obtain ⟨text,done,-⟩ := run_replay ran
    exact ⟨[],headed,by rw [List.append_nil]; exact text,fun _ => ⟨rfl,done rfl⟩⟩
  | some path =>
    obtain ⟨ending,configuration',after,saved⟩ :=
      exec_save path hub.shots.shots { configuration := configuration.load.2, shown }
    rw [output] at ran
    exact ⟨after,headed,(run_replay (ran.trans saved)).1,nofun⟩

/-- A replay that cannot start ends with status 1, and shows nothing, or nothing below its heading but the reason. -/
theorem run_unplayable (unplayable : ¬Playable configuration request) :
    let outcome := run configuration (.replay request)
    outcome.status = 1 ∧
      (outcome.text = "" ∨
        ∃ heading, Report.heading (Folder.lastName request.file) = .ok heading ∧
          outcome.text = Report.text (heading ++ (Report.brokenOff .tooLarge).toOption.getD [])) := by
  intro outcome
  -- It ends where the first of its needs is not met; for all but the last of them that is before the heading.
  have early : ∀ why, exec (replay request) { configuration } =
      (.error (.fault why),{ configuration := configuration.load.2 }) → outcome.status = 1 ∧ outcome.text = "" := by
    intro why ended
    obtain ⟨text,-,failed⟩ := run_replay ended
    exact ⟨failed nofun,text⟩
  cases settled : configuration.load.1 with
  | error why =>
    refine (early why ?_).imp_right .inl
    unfold replay
    rw [exec_bind,exec_settings,settled]
    rfl
  | ok s =>
    cases delayed : delayOf request s with
    | error why =>
      refine (early why ?_).imp_right .inl
      unfold replay
      rw [exec_bind,exec_settings,settled]
      dsimp only [Except.mapError]
      rw [exec_bind,exec_need,delayed]
      rfl
    | ok delay =>
      cases headed : Report.heading (Folder.lastName request.file) with
      | error why =>
        refine (early why ?_).imp_right .inl
        unfold replay
        rw [exec_bind,exec_settings,settled]
        dsimp only [Except.mapError]
        rw [exec_bind,exec_need,delayed]
        dsimp only [Except.mapError]
        rw [exec_bind,exec_display,headed]
        rfl
      | ok heading =>
        cases paused : secondsOfMillis request.intervalMillis with
        | ok interval => exact absurd ⟨⟨s,delay,settled,delayed⟩,⟨heading,headed⟩,interval,paused⟩ unplayable
        | error why =>
          obtain rfl : why = .tooLarge := by
            unfold secondsOfMillis at paused
            split at paused <;> cases paused
            rfl
          obtain ⟨ending,broken⟩ := exec_play_breaks request ((timed_of_words asked).delayed delayed) paused events
            { configuration := configuration.load.2, shown := heading }
          have ended : exec (replay request) { configuration } = (.error ending,
              { configuration := configuration.load.2
                shown := heading ++ (Report.brokenOff .tooLarge).toOption.getD [] }) := by
            rw [exec_replay found loaded settled delayed headed,showRest,exec_bind,broken]
          obtain ⟨text,-,failed⟩ := run_replay ended
          exact ⟨failed nofun,.inr ⟨heading,rfl,text⟩⟩

end

end

end Command

end ShotRecorder
