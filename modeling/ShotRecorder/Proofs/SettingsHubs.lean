import ShotRecorder.Hub.Basic
import ShotRecorder.Proofs.LoadedSettings
import ShotRecorder.Proofs.LoggerCalls
import ShotRecorder.Proofs.Rounding

/-!
What is made of settings once they are loaded. Nothing but the time between refreshes keeps a hub from being made: its
level always means something to the loggers, and its milliseconds are seconds, finite and not negative, as long as they
are below half way from the greatest number to the next power of two (`secondsOfMillis_of_lt`). Every whole number
of milliseconds is loaded all the same (`load_ofMillis`).
-/
namespace ShotRecorder

theorem secondsOfMillis_of_lt {millis : Nat} (below : millis < Decimal.limit) :
    ∃ seconds : Float, secondsOfMillis millis = .ok seconds ∧ Decimal.Plain seconds := by
  refine ⟨Float.ofInt millis / 1000.0,?_,(Decimal.plain_ofInt below).div_thousand⟩
  unfold secondsOfMillis
  rw [Decimal.ofInt?_of_lt below]

theorem secondsOfMillis_of_le {millis : Nat} (above : Decimal.limit ≤ millis) :
    secondsOfMillis millis = .error .tooLarge := by
  unfold secondsOfMillis
  rw [Decimal.ofInt?_of_le above]

namespace Hub

/-- A hub is made with every delay that is not negative. -/
theorem new_of_notNegative {τ : Type} [Clock τ] (capture : Bool) {delay : τ} (timer : Timer τ (Callback τ))
    (threshold : Nat) (notNegative : Clock.isNegative delay = false) :
    ∃ hub, new capture delay timer threshold = .ok hub ∧ hub.capturing = capture ∧ hub.scheduler = { delay } ∧
      hub.timer = timer ∧ hub.threshold = threshold := by
  have scheduled : newScheduler delay = .ok { delay } := by
    rw [newScheduler,notNegative]
    rfl
  unfold new
  rw [scheduled]
  cases capture <;> exact ⟨_,rfl,rfl,rfl,rfl,rfl⟩

/-- A hub is made of settings just if their milliseconds are below the limit. -/
theorem ofSettings_of_lt {settings : Settings} (below : settings.refreshMillis < Decimal.limit)
    (timer : Timer Number (Callback Number)) :
    ∃ seconds hub, settings.refreshSeconds = .ok seconds ∧ Decimal.Plain seconds ∧ ofSettings settings timer = .ok hub ∧
      hub.capturing = settings.capture ∧ hub.scheduler = { delay := .float seconds } ∧ hub.timer = timer ∧
      hub.threshold = settings.level.number := by
  obtain ⟨seconds,found,plain⟩ := secondsOfMillis_of_lt below
  have notNegative : Clock.isNegative (Number.float seconds) = false := decide_eq_false plain.not_lt_zero
  obtain ⟨hub,made,parts⟩ := new_of_notNegative settings.capture timer settings.level.number notNegative
  refine ⟨seconds,hub,found,plain,?_,parts⟩
  rw [ofSettings,Settings.refreshSeconds,found]
  exact made

theorem ofSettings_of_le {settings : Settings} (above : Decimal.limit ≤ settings.refreshMillis)
    (timer : Timer Number (Callback Number)) : ofSettings settings timer = .error .tooLarge := by
  rw [ofSettings,Settings.refreshSeconds,secondsOfMillis_of_le above]
  rfl

end Hub

namespace Settings

/-- Arguments that give milliseconds, and leave the other settings as they are. -/
def ofMillis (millis : Nat) : Members := [(SettingName.refreshMillis.short,.number (.int millis))]

theorem millisOf_natCast (path : Path) (millis : Nat) : millisOf path (.number (.int millis)) = .pass millis := by
  have notNegative : ¬(millis : Int) < 0 := Int.not_lt.mpr (Int.natCast_nonneg millis)
  unfold millisOf intOf
  exact if_neg notNegative

theorem setting_of_none {sources : Sources} {name : SettingName} (none : sources.find? name = none) {α : Type}
    (check : Path → Json → Checked α) (absent : α) : setting sources name check absent = .pass absent := by
  rw [setting,none]

theorem ofSources_ofMillis (millis : Nat) :
    ofSources { arguments := ofMillis millis } = .pass { refreshMillis := millis } := by
  have given : setting { arguments := ofMillis millis } .refreshMillis millisOf 50 = .pass millis := by
    have found : ({ arguments := ofMillis millis } : Sources).find? .refreshMillis =
        some { value := .number (.int millis), place := SettingName.refreshMillis.short } := rfl
    rw [setting,found]
    exact millisOf_natCast _ millis
  have absent : ∀ name ∈ [SettingName.stage,.level,.capture],
      ({ arguments := ofMillis millis } : Sources).find? name = none := by
    intro name other
    simp only [List.mem_cons,List.not_mem_nil,or_false] at other
    rcases other with rfl | rfl | rfl <;> rfl
  unfold ofSources
  dsimp only
  rw [given,setting_of_none (absent .stage (by simp)),setting_of_none (absent .level (by simp)),
    setting_of_none (absent .capture (by simp))]
  rfl

/-- Every whole number of milliseconds is loaded. -/
theorem load_ofMillis (millis : Nat) : load (ofMillis millis) [] [] = .ok { refreshMillis := millis } := by
  have outlook : Outlook.ofArguments (ofMillis millis) = {} := rfl
  have noFiles : entriesOf [] [] ({} : Outlook).files = .ok [] := by
    rw [entriesOf_plain [] [] (by decide +kernel)]
    rfl
  rw [load,outlook]
  dsimp only
  rw [noFiles]
  dsimp only [bind,Except.bind]
  rw [ofSources_ofMillis]
  rfl

/-- Loaded settings have one of the eight levels, and the loggers know what it means. A hub is made of them, with the
    seconds that they give, just if their milliseconds are below the limit; from there on it is the seconds that there
    are none of. -/
theorem hub_of_loaded (arguments : Members) (environment : VariableFile.Variables) (folder : Folder.Files)
    (timer : Timer Number (Callback Number)) (loggers : Loggers) :
    ∀ settings, load arguments environment folder = .ok settings →
      settings.level.name ∈ ["OFF","CRITICAL","ERROR","WARN","WARNING","INFO","DEBUG","TRACE"] ∧
      ((loggers.configureComponent settings "target").1 = .ok () ∧
        (loggers.configureComponent settings "target").2.effective (Loggers.componentName "target" settings.level) =
          settings.level.number) ∧
      (settings.refreshMillis < Decimal.limit →
        ∃ seconds hub, settings.refreshSeconds = .ok seconds ∧ Decimal.finite seconds = true ∧ (0.0 : Float) ≤ seconds ∧
          Hub.ofSettings settings timer = .ok hub ∧ hub.capturing = settings.capture ∧
          hub.scheduler.delay = .float seconds ∧ hub.threshold = settings.level.number) ∧
      (Decimal.limit ≤ settings.refreshMillis →
        settings.refreshSeconds = .error .tooLarge ∧ Hub.ofSettings settings timer = .error .tooLarge) := by
  intro settings _
  have ⟨answered,level⟩ := loggers.perform_component settings "target"
  refine ⟨?_,⟨answered,Loggers.effective_of_number level⟩,fun below => ?_,fun above => ?_⟩
  · cases settings.level <;> decide
  · obtain ⟨seconds,hub,found,plain,made,capturing,scheduler,-,threshold⟩ := Hub.ofSettings_of_lt below timer
    exact ⟨seconds,hub,found,plain.finite,plain.zero_le,made,capturing,by rw [scheduler],threshold⟩
  · exact ⟨secondsOfMillis_of_le above,Hub.ofSettings_of_le above timer⟩

/-- The most milliseconds that a hub is made with, and one more. -/
theorem hub_of_most_millis :
    (∃ seconds hub, ({ refreshMillis := Decimal.limit - 1 } : Settings).refreshSeconds = .ok seconds ∧
      Decimal.finite seconds = true ∧ Hub.ofSettings { refreshMillis := Decimal.limit - 1 } .byHand = .ok hub ∧
      hub.scheduler.delay = .float seconds) ∧
    Hub.ofSettings { refreshMillis := Decimal.limit } .byHand = .error .tooLarge := by
  have most := hub_of_loaded (ofMillis (Decimal.limit - 1)) [] [] .byHand [] _ (load_ofMillis _)
  have more := hub_of_loaded (ofMillis Decimal.limit) [] [] .byHand [] _ (load_ofMillis _)
  have below : Decimal.limit - 1 < Decimal.limit := Nat.sub_lt (Decimal.lt_limit_of_short (by decide)) Nat.one_pos
  obtain ⟨seconds,hub,found,finite,-,made,-,delay,-⟩ := most.2.2.1 below
  exact ⟨⟨seconds,hub,found,finite,made,delay⟩,(more.2.2.2 (Nat.le_refl _)).2⟩

/-- So many milliseconds are loaded, but there are no seconds of them, and no hub is made. -/
theorem no_hub_of_loaded_millis :
    load (ofMillis Decimal.limit) [] [] = .ok { refreshMillis := Decimal.limit } ∧
      ({ refreshMillis := Decimal.limit } : Settings).refreshSeconds = .error .tooLarge ∧
      Hub.ofSettings { refreshMillis := Decimal.limit } .byHand = .error .tooLarge :=
  ⟨load_ofMillis _,secondsOfMillis_of_le (Nat.le_refl _),Hub.ofSettings_of_le (Nat.le_refl _) _⟩

end Settings

end ShotRecorder
