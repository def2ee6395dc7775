import ShotRecorder.Command.Request
import ShotRecorder.Event.File
import ShotRecorder.Event.Schema
import ShotRecorder.Report
import ShotRecorder.Settings.Configuration

/-!
# Answering requests

What is shown for a request, the status that it ends with, and the files that it leaves. A replay
takes its delay from the settings unless it is told one. It ends with status 1 if its file holds no
events, if it breaks off, or if the shots could not be saved.
-/

namespace ShotRecorder.Command

/-- What a request has shown so far, and the configuration it works with. -/
structure Screen where
  configuration : Configuration
  shown : List Report.Line := []

/-- Why a request ends early. -/
inductive Ending where
  /-- What went wrong was shown. -/
  | told
  /-- Nobody took care of a fault. -/
  | fault (why : Fault)

/-- A request that is being answered. -/
abbrev Answering := ExceptT Ending (StateM Screen)

/-- A value, or a fault that nobody takes care of. -/
def need {α : Type} : Except Fault α → Answering α
  | .ok a => pure a
  | .error why => throw (.fault why)

/-- Lines shown. -/
def display (found : Except Fault (List Report.Line)) : Answering Unit := do
  let found ← need found
  modify fun screen => { screen with shown := screen.shown ++ found }

/-- Lines shown that tell what went wrong; the request ends. -/
def giveUp {α : Type} (found : Except Fault (List Report.Line)) : Answering α := do
  display found
  throw .told

/-- The settings. -/
def settings : Answering Settings := do
  let screen ← get
  let (found, configuration) := screen.configuration.load
  set { screen with configuration }
  need found

/-- The delay of a replay in seconds. -/
def delayOf (request : ReplayRequest) (s : Settings) : Except Fault Float :=
  match request.delayMillis with
  | some millis => secondsOfMillis millis
  | none => s.refreshSeconds

/-- The events of the file at a path. -/
def eventsOf (path : String) : Answering (List Event) := do
  match Folder.read (← get).configuration.folder path >>= Event.listOfFile with
  | .ok events => pure events
  | .error why => giveUp (Report.notLoaded why)

/-- The replay of events: the hub that it leaves. -/
def play (request : ReplayRequest) (delay : Float) (events : List Event) :
    Answering (Hub Number) := do
  let hub ← need (Replay.start (.float delay) request.echo)
  match secondsOfMillis request.intervalMillis with
  | .error why => giveUp (Report.brokenOff why)
  | .ok interval => do
    let (ending, hub) := Replay.run hub (.float interval) events
    display (.ok (Report.allNoticed (Replay.notices hub)))
    match ending with
    | .ok () => pure hub
    | .error why => giveUp (Report.brokenOff why)

/-- The shots saved in the file at a path. -/
def save (path : String) (shots : List Shot) : Answering Unit := do
  let screen ← get
  match Folder.place screen.configuration.folder path with
  | .ok name => do
    let file := (name, (Shot.fileText shots).toUTF8)
    set { screen with configuration := screen.configuration.write [file] }
    display (Report.saved (Folder.normal path))
  | .error (.system number words) =>
    giveUp (Report.notSaved (Folder.normal path) (.system number words))
  | .error why => throw (.fault why)

/-- A replay: heading, notices, table and summary, and the shots saved if that is wanted. -/
def replay (request : ReplayRequest) : Answering Unit := do
  let delay ← need (delayOf request (← settings))
  display (Report.heading (Folder.lastName request.file))
  let events ← eventsOf request.file
  let hub ← play request delay events
  display (Report.table hub.shots)
  display (.ok (Report.summary events.length hub.shots hub.scheduler.fired))
  match request.output with
  | some path => save path hub.shots.shots
  | none => pure ()

/-- The lines that tell how a command line is written. -/
def usage : List Report.Line :=
  ["replay FILE [--delay-ms N] [--interval-ms N] [--echo] [--output FILE] [--verbose]".toList,
   "schema".toList]

/-- The answer to a request. -/
def answer : Request → Answering Unit
  | .help => display (.ok usage)
  | .schema => display (.ok [Schema.producers.indented.toList])
  | .replay request => replay request

/-- How a request ended. -/
structure Outcome where
  status : Nat
  text : String
  /-- The fault that nobody took care of. -/
  fault : Option Fault
  configuration : Configuration

/-- A request answered. -/
def run (configuration : Configuration) (request : Request) : Outcome :=
  let (ending, screen) := (answer request).run.run { configuration := configuration }
  let (status, fault) := match ending with
    | .ok () => (0, none)
    | .error .told => (1, none)
    | .error (.fault why) => (1, some why)
  { status, text := Report.text screen.shown, fault, configuration := screen.configuration }

end ShotRecorder.Command
