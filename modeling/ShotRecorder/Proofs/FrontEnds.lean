import ShotRecorder.Proofs.Listings
import ShotRecorder.Proofs.ReplayScreens

/-!
Two ways to show the shots of a stream. A replay shows them in a table and a listing in lines; one waits on a loop and
the other moves its timer by hand, yet both tell of the same shots (`table_and_listing_agree`): as many of them, as many
that have ended, and row by row the same. They differ in one thing. A shot that has not ended is told apart in the
table, and in the listing it is among those that failed (`unfinished_is_listed_as_failed`).
-/
namespace ShotRecorder

/-! ### How much is told of -/

/-- Each entry of a shot is a message or a snapshot. -/
theorem Shot.length_messages_add_snapshotCount (shot : Shot) :
    shot.messages.length + shot.snapshotCount = shot.entries.length := by
  obtain ⟨entries,success,result⟩ := shot
  simp only [messages,snapshotCount]
  induction entries with
  | nil => rfl
  | cons entry entries ih =>
    cases entry <;> simp [List.filterMap_cons,List.countP_cons,Entry.text?,Entry.isSnapshot] <;> omega

namespace ShotLog

/-- How many entries there are in all shots, and ends of shots. -/
def size (log : ShotLog) : Nat := (log.shots.map (·.entries.length)).sum + log.closedCount

/-- Each event leaves an entry or ends a shot. -/
theorem size_apply (log : ShotLog) {event : Event} (producer : event.kind ∈ Kind.producers) :
    (log.apply event).size = log.size + 1 := by
  obtain ⟨closed,current⟩ := log
  cases event with
  | refresh => simp [Event.kind,Kind.producers] at producer
  | _ => cases current <;> simp [apply,observe,close,size,shots,closedCount,entries] <;> omega

theorem size_foldl {events : List Event} (produced : ∀ event ∈ events, event.kind ∈ Kind.producers) (log : ShotLog) :
    (events.foldl apply log).size = log.size + events.length := by
  induction events generalizing log with
  | nil => rfl
  | cons event rest ih =>
    obtain ⟨producer,others⟩ := List.forall_mem_cons.mp produced
    rw [List.foldl_cons,ih others,size_apply log producer,List.length_cons,Nat.add_right_comm,Nat.add_assoc]

end ShotLog

/-! ### Rows -/

/-- How many entries a row of the table tells of. -/
def Report.Row.entries (row : Report.Row) : Nat := row.messages + row.snapshots

theorem Report.Row.entries_ofShot (ended : Bool) (shot : Shot) : (ofShot ended shot).entries = shot.entries.length :=
  shot.length_messages_add_snapshotCount

/-- The outcome that a row of a listing tells of. -/
def Listing.Row.outcome (row : Listing.Row) : Report.Outcome := if row.success then .ok else .failed

theorem Listing.Row.line_eq (row : Listing.Row) (number : Nat) :
    row.line number =
      "  " ++ twoDigits number ++ ". [" ++ row.outcome.name ++ "] " ++ Quoted.encode row.result ++ " (" ++
        toString row.entries ++ " sub-events)" := by
  unfold line outcome
  cases row.success <;> rfl

/-- A row of the table and one of a listing that tell the same of a shot, except that it may not have ended. -/
structure SameShot (ended : Bool) (row : Report.Row) (line : Listing.Row) : Prop where
  entries : row.entries = line.entries
  result : row.result = line.result
  shown : Terminal.Literal row.result.toList → row.shownResult = line.result.toList
  outcome : ended = true → row.outcome = line.outcome
  unfinished : ended = false → row.outcome = .unfinished ∧ line.outcome = .failed

theorem sameShot_ofShot {ended : Bool} {shot : Shot} (unsuccessful : ended = false → shot.success = false) :
    SameShot ended (Report.Row.ofShot ended shot) (Listing.Row.ofShot shot) where
  entries := Report.Row.entries_ofShot ended shot
  result := rfl
  shown := Report.Row.shownResult_of_literal
  outcome := by
    rintro rfl
    rfl
  unfinished := by
    rintro rfl
    simp [Report.Row.ofShot,Report.Outcome.ofShot,Listing.Row.outcome,Listing.Row.ofShot,unsuccessful rfl]

theorem Report.rows_getElem? (log : ShotLog) (i : Nat) :
    (rows log)[i]? = log.shots[i]?.map (Row.ofShot (i < log.closedCount)) := by
  simp [rows,Function.comp_def]

/-- The shots that have ended come first, and one that has not is no success. -/
theorem ShotLog.unsuccessful {log : ShotLog} {i : Nat} {shot : Shot} (here : log.shots[i]? = some shot)
    (unfinished : log.closedCount ≤ i) : shot.success = false := by
  unfold shots at here
  rw [List.getElem?_append_right unfinished] at here
  obtain ⟨entries,-,rfl⟩ := List.mem_map.mp (List.mem_of_getElem? here)
  rfl

/-- A table of shots and a listing that tell of the same shots. -/
structure SameShots (log : ShotLog) (listing : Listing) : Prop where
  inTable : (Report.rows log).length = log.count
  inListing : listing.rows.length = log.count
  closed : listing.closed = log.closedCount
  row : ∀ i row line, (Report.rows log)[i]? = some row → listing.rows[i]? = some line →
    SameShot (i < log.closedCount) row line

theorem sameShots_ofStream (events : List Event) :
    SameShots (events.foldl ShotLog.apply {}) (Listing.ofStream events) where
  inTable := by simp [Report.rows,ShotLog.length_shots]
  inListing := by simp [Listing.ofStream,ShotLog.length_shots]
  closed := rfl
  row i row line inTable inListing := by
    rw [Report.rows_getElem?] at inTable
    rw [Listing.ofStream,List.getElem?_map] at inListing
    obtain ⟨shot,here,rfl⟩ := Option.map_eq_some_iff.mp inTable
    rw [here] at inListing
    obtain rfl := Option.some.inj inListing
    exact sameShot_ofShot fun unfinished => ShotLog.unsuccessful here (Nat.le_of_not_lt (of_decide_eq_false unfinished))

/-- In the table and in the listing, entries and ends of shots add up to the events. -/
theorem sums_ofStream {events : List Event} (produced : ∀ event ∈ events, event.kind ∈ Kind.producers) :
    let log := events.foldl ShotLog.apply {}
    let listing := Listing.ofStream events
    ((Report.rows log).map Report.Row.entries).sum + log.closedCount = events.length ∧
      (listing.rows.map Listing.Row.entries).sum + listing.closed = events.length := by
  intro log listing
  have size : log.size = events.length := (ShotLog.size_foldl produced {}).trans (Nat.zero_add _)
  have inTable : (Report.rows log).map Report.Row.entries = log.shots.map (·.entries.length) := by
    refine List.ext_getElem? fun i => ?_
    rw [List.getElem?_map,List.getElem?_map,Report.rows_getElem?,Option.map_map]
    exact congrArg (log.shots[i]?.map ·) (funext fun shot => Report.Row.entries_ofShot _ shot)
  have inListing : listing.rows.map Listing.Row.entries = log.shots.map (·.entries.length) := List.map_map
  rw [inTable,inListing]
  exact ⟨size,size⟩

/-! ### Files -/

theorem Listing.delay_isTimely : Clock.IsTimely delay := ⟨0.05,rfl,by decide +kernel⟩

/-- The listing of a file that holds events. -/
theorem Listing.ofFile_eq {files : Folder.Files} {path : String} {bytes : ByteArray}
    (found : Folder.read files path = .ok bytes) {events : List Event} (loaded : Event.listOfFile bytes = .ok events) :
    ofFile files path = .ok (ofStream events).text := by
  have produced := Event.produced_of_loaded loaded
  have looked : ∃ name, Folder.look files (Folder.normal path) = .ok (name,bytes) := by
    unfold Folder.read at found
    split at found
    · cases found
      exact ⟨_,by assumption⟩
    · cases found
  obtain ⟨name,looked⟩ := looked
  unfold ofFile
  rw [looked]
  dsimp only
  rw [found]
  dsimp only [bind,Except.bind]
  rw [loaded]
  dsimp only
  rw [ofEvents_eq Clock.forward_binary delay_isTimely produced]
  rfl

/-- Whatever its options and settings are, a replay that can start shows the table of the shots that the listing of its
    file tells of, wherever that file is listed: there are as many rows, as many of them for shots that have ended, and
    each row of the one tells what the row of the other does, except for a shot that has not ended. In both, the entries
    of all rows and the shots that have ended are as many as the events. -/
theorem table_and_listing_agree {words : List String} {request : Command.ReplayRequest}
    (asked : Command.ofWords words = .ok (.replay request)) {configuration : Configuration}
    (playable : Command.Playable configuration request) {bytes : ByteArray}
    (found : Folder.read configuration.folder request.file = .ok bytes) {files : Folder.Files} {path : String}
    (found' : Folder.read files path = .ok bytes) {events : List Event} (loaded : Event.listOfFile bytes = .ok events) :
    let outcome := Command.run configuration (.replay request)
    let log := events.foldl ShotLog.apply {}
    let listing := Listing.ofStream events
    (∃ heading notices refreshes after, Report.heading (Folder.lastName request.file) = .ok heading ∧
      outcome.text = Report.text (heading ++ Report.allNoticed notices ++ Report.shownTable log ++
        Report.summary events.length log refreshes ++ after) ∧
      (request.output = none → after = [] ∧ outcome.status = 0 ∧ outcome.fault = none)) ∧
    Listing.ofFile files path = .ok listing.text ∧ SameShots log listing ∧
      ((Report.rows log).map Report.Row.entries).sum + log.closedCount = events.length ∧
      (listing.rows.map Listing.Row.entries).sum + listing.closed = events.length :=
  ⟨Command.run_playable asked found loaded playable,Listing.ofFile_eq found' loaded,sameShots_ofStream events,
    sums_ofStream (Event.produced_of_loaded loaded)⟩

private theorem exists_of_isOk {α : Type} {outcome : Except Fault α} (isOk : outcome.isOk = true) :
    ∃ a, outcome = .ok a := by
  cases outcome with
  | ok a => exact ⟨a,rfl⟩
  | error fault => cases isOk

private theorem run_asked : Command.ofWords ["replay","run.jsonl"] = .ok (.replay { file := "run.jsonl" }) := by cbv

private theorem run_isPlain : Folder.IsPlain "run.jsonl" := by decide +kernel

private theorem message_loaded :
    Event.listOfFile "\x7b\"type\":\"Message\",\"text\":\"m\"\x7d".toUTF8 = .ok [.message "m"] := by
  rw [Event.listOfFile_toUTF8]
  cbv

/-- A replay can start in a folder with nothing but its file. -/
private theorem playable_alone (bytes : ByteArray) :
    Command.Playable { folder := [("run.jsonl",bytes)] } { file := "run.jsonl" } := by
  have seconds : ∀ millis : Nat, millis < 2 ^ 53 → ∃ seconds, secondsOfMillis millis = .ok seconds := fun _ short =>
    (secondsOfMillis_of_lt (Decimal.lt_limit_of_short short)).imp fun _ => And.left
  obtain ⟨delay,delayed⟩ := seconds 50 (by decide)
  refine ⟨⟨{},delay,Configuration.load_of_nothing ?_,delayed⟩,?_,seconds 0 (by decide)⟩
  · revert bytes
    simp
  · rw [Folder.lastName_of_plain run_isPlain]
    exact exists_of_isOk (by decide +kernel)

/-- A shot that failed, and one that has not ended. -/
theorem table_and_listing_agree_for_open_shot :
    let ended := "\x7b\"type\":\"Result\",\"success\":false,\"value\":\"0\"\x7d"
    let rest := "\x7b\"type\":\"Message\",\"text\":\"m\"\x7d"
    let folder : Folder.Files := [("run.jsonl",(ended ++ "\n" ++ rest).toUTF8)]
    let outcome := Command.run { folder } (.replay { file := "run.jsonl" })
    let events : List Event := [.result false "0",.message "m"]
    let log := events.foldl ShotLog.apply {}
    let listing := Listing.ofStream events
    outcome.status = 0 ∧ (∃ above below, outcome.text = Report.text (above ++ Report.shownTable log ++ below)) ∧
      Listing.ofFile folder "run.jsonl" = .ok listing.text ∧ SameShots log listing ∧
      Report.rows log = [⟨0,0,.failed,"0"⟩,⟨1,0,.unfinished,""⟩] ∧ listing.rows = [⟨false,"0",0⟩,⟨false,"",1⟩] := by
  intro ended rest folder outcome events log listing
  have found : Folder.read folder "run.jsonl" = .ok (ended ++ "\n" ++ rest).toUTF8 :=
    Folder.read_of_plain run_isPlain rfl
  have first : Event.listOfFile ended.toUTF8 = .ok [.result false "0"] := by
    rw [Event.listOfFile_toUTF8]
    cbv
  have loaded : Event.listOfFile (ended ++ "\n" ++ rest).toUTF8 = .ok events := by
    rw [Event.load_joined (by decide +kernel) (by decide +kernel),first,message_loaded]
    rfl
  obtain ⟨⟨heading,notices,refreshes,after,-,shown,finished⟩,listed,same,-⟩ :=
    table_and_listing_agree run_asked (playable_alone _) found found loaded
  refine ⟨(finished rfl).2.1,⟨heading ++ Report.allNoticed notices,Report.summary 2 log refreshes ++ after,?_⟩,listed,
    same,by decide,by decide⟩
  rw [← List.append_assoc]
  exact shown

/-- The only shot of a file has not ended. The table says so, and the listing says that it failed. -/
theorem unfinished_is_listed_as_failed :
    let file := "\x7b\"type\":\"Message\",\"text\":\"m\"\x7d"
    let folder : Folder.Files := [("run.jsonl",file.toUTF8)]
    let outcome := Command.run { folder } (.replay { file := "run.jsonl" })
    let log : ShotLog := { current := some [.message "m"] }
    (∃ above below, outcome.text = Report.text (above ++ Report.shownTable log ++ below)) ∧
      (Report.rows log).map (fun row => row.outcome.name) = ["open"] ∧
      Listing.ofFile folder "run.jsonl" =
        .ok "🔄 refresh: 1 shot(s)\n\n✅ 1 events -> 0 closed shot(s)\n  01. [failed] '' (1 sub-events)\n" := by
  intro file folder outcome log
  have found : Folder.read folder "run.jsonl" = .ok file.toUTF8 := Folder.read_of_plain run_isPlain rfl
  obtain ⟨heading,notices,refreshes,after,-,shown,-⟩ :=
    Command.run_playable run_asked found message_loaded (playable_alone _)
  refine ⟨⟨heading ++ Report.allNoticed notices,Report.summary 1 log refreshes ++ after,?_⟩,by decide,?_⟩
  · rw [← List.append_assoc]
    exact shown
  · rw [Listing.ofFile_eq found message_loaded]
    cbv

end ShotRecorder
