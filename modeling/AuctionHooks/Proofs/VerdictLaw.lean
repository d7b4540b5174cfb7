import AuctionHooks.Program
import AuctionHooks.Proofs.Tearing

/-!
# What the exit code says

The program does three things that could each be the end of it: it loads a configuration, it sets up the
log, and it validates what it has loaded.  The first and the last are what it is run for, and its exit
code is to be their verdict.  The log is to be none of its business.

It is not, in one case.  A directive of the log filter that tears a character ends the program where it
stands, in front of the validation and before anything is logged (`run_of_tears`).  Such a directive
begins with white space and has a character of several bytes; it may stand in the environment or in the
configuration itself.  Wherever there is none, the exit code is the verdict, and the log has no part in
it (`run_verdict`).

## What is logged

`Surroundings.shown` are the events that become lines, in order.  One of them may say that the
configuration is loaded, and it is shown only after success.  This is said of events rather than of
lines, since a configuration may have any text in it, that of another event included.
-/

namespace AuctionHooks

/-- The settings of the log that a configuration has, or else the default ones. -/
def EngineConfig.settings (c : EngineConfig) : LogSettings := c.logging.getD {}

/-- Whether a configuration is valid depends on what it says about hooks. -/
theorem EngineConfig.validate_congr {c c' : EngineConfig} (h : c'.hooks = c.hooks) :
    c'.validate = c.validate := by
  cases c
  cases c'
  cases h
  rfl

/-- A configuration is valid just if it has no fault. -/
theorem EngineConfig.validate_eq_ok_iff {c : EngineConfig} :
    c.validate = .ok () ↔ c.fault? = none := by
  rw [validate]
  cases c.fault? <;> simp

namespace Program

namespace Surroundings

/-- What loading comes to in given surroundings. -/
def load (s : Surroundings) : Except LoadError EngineConfig :=
  (ConfigLoader.forTree (s.disk s.configPath)).load s.configPath (s.disk s.configPath)

/-- The filter of the log under a configuration, if there can be one. -/
def filter? (s : Surroundings) (c : EngineConfig) : Option LogFilter :=
  (filterFor s.filterVariable c.settings).1

/-- That a directive tears a character, so that no log comes about. -/
def Tears (s : Surroundings) : Prop := ∃ c, s.load = .ok c ∧ s.filter? c = none

/-- The events that are shown. -/
def shown (s : Surroundings) : List LogEvent :=
  match s.load with
  | .error _ => []
  | .ok c => ((s.filter? c).map fun filter => (review s.configPath c).1.filter filter.shows).getD []

theorem configPath_eq (s : Surroundings) :
    s.configPath = match s.configVariable, s.arguments with
      | some path, _ => path
      | none, path :: _ => path
      | none, [] => "config/hooks.toml" := by
  rw [configPath]
  cases s.configVariable with
  | some path => rfl
  | none => cases s.arguments <;> rfl

end Surroundings

variable {s : Surroundings}

/-! ## The three ends -/

theorem run_of_error {e : LoadError} (h : s.load = .error e) :
    (run s).exitCode = 1 ∧ (run s).log = [] := by
  rw [Surroundings.load] at h
  unfold run
  dsimp only
  rw [h]
  exact ⟨rfl, rfl⟩

theorem run_of_tears {c : EngineConfig} (h : s.load = .ok c) (hfilter : s.filter? c = none) :
    (run s).exitCode = 101 ∧ (run s).log = [] := by
  rw [Surroundings.load] at h
  unfold run
  dsimp only
  rw [h]
  dsimp only
  rw [Surroundings.filter?, EngineConfig.settings] at hfilter
  rw [hfilter]
  exact ⟨rfl, rfl⟩

/-- Otherwise the program goes on to the end, and tells the fault of the configuration by its exit
code. -/
theorem run_of_filter {c : EngineConfig} {filter : LogFilter} (h : s.load = .ok c)
    (hfilter : s.filter? c = some filter) :
    ((run s).exitCode = if c.fault? = none then 0 else 1) ∧
      (run s).log =
        ((review s.configPath c).1.filter filter.shows).flatMap (·.lines c.settings) := by
  rw [Surroundings.load] at h
  unfold run
  dsimp only
  rw [h]
  dsimp only
  rw [Surroundings.filter?, EngineConfig.settings] at hfilter
  rw [hfilter, review]
  cases c.fault? <;> exact ⟨rfl, rfl⟩

/-- There are no other ends. -/
theorem Surroundings.load_cases (s : Surroundings) :
    (∃ e, s.load = .error e) ∨ (∃ c, s.load = .ok c ∧ s.filter? c = none) ∨
      ∃ c filter, s.load = .ok c ∧ s.filter? c = some filter := by
  cases h : s.load with
  | error e => exact .inl ⟨e, rfl⟩
  | ok c =>
    cases hfilter : s.filter? c with
    | none => exact .inr (.inl ⟨c, rfl, hfilter⟩)
    | some filter => exact .inr (.inr ⟨c, filter, rfl, hfilter⟩)

/-! ## Torn directives -/

/-- No filter comes about only if a directive tears a character, in the environment or in the settings
of the configuration. -/
theorem Surroundings.exists_hasTorn {c : EngineConfig} (hfilter : s.filter? c = none) :
    ∃ text, (s.filterVariable = some text ∨ text = c.settings.level) ∧ LogFilter.HasTorn text := by
  rw [filter?, filterFor] at hfilter
  split at hfilter
  · cases hfilter
  · next hread =>
    obtain ⟨text, htext, htorn⟩ := Option.map_eq_some_iff.1 hread
    exact ⟨text, .inl htext, LogFilter.hasTorn_of_ofText htorn⟩
  · exact ⟨_, .inr rfl, LogFilter.ofTextLeniently_eq_none_iff.1 hfilter⟩

/-! ## What is logged -/

/-- That a configuration is loaded is not said of one that has a fault. -/
theorem message_of_fault {path : String} {c : EngineConfig} {fault : ConfigFault}
    (h : c.fault? = some fault) {e : LogEvent} (he : e ∈ (review path c).1) :
    e.message ≠ "Hook engine config loaded" := by
  rw [review, h] at he
  rcases List.mem_append.1 he with he | he
  · rcases List.mem_cons.1 he with rfl | he
    · exact (by decide : "Starting OpenBid Hook Engine" ≠ "Hook engine config loaded")
    · rw [EngineConfig.remarks] at he
      rcases List.mem_append.1 he with he | he
      · obtain ⟨x, -, rfl⟩ := List.mem_map.1 he
        exact (by decide : "Execution group without hooks" ≠ "Hook engine config loaded")
      · obtain ⟨x, -, rfl⟩ := List.mem_map.1 he
        exact (by decide :
          "Module referenced by host plan is disabled" ≠ "Hook engine config loaded")
  · obtain rfl := List.mem_singleton.1 he
    exact (by decide : "Invalid hook engine config" ≠ "Hook engine config loaded")

/-- The lines of the log are those of the events that are shown. -/
theorem log_run (s : Surroundings) :
    (run s).log =
      s.shown.flatMap (·.lines ((s.load.toOption.map EngineConfig.settings).getD {})) := by
  rcases s.load_cases with ⟨e, h⟩ | ⟨c, h, hfilter⟩ | ⟨c, filter, h, hfilter⟩
  · rw [(run_of_error h).2, Surroundings.shown, h]
    rfl
  · rw [(run_of_tears h hfilter).2, Surroundings.shown, h]
    dsimp only
    rw [hfilter]
    rfl
  · rw [(run_of_filter h hfilter).2, Surroundings.shown, h]
    dsimp only
    rw [hfilter]
    rfl

/-- That the configuration is loaded is shown only after success. -/
theorem exitCode_of_mem_shown {e : LogEvent} (he : e ∈ s.shown)
    (hmessage : e.message = "Hook engine config loaded") : (run s).exitCode = 0 := by
  rcases s.load_cases with ⟨e', h⟩ | ⟨c, h, hfilter⟩ | ⟨c, filter, h, hfilter⟩
  · rw [Surroundings.shown, h] at he
    cases he
  · rw [Surroundings.shown, h] at he
    dsimp only at he
    rw [hfilter] at he
    cases he
  · rw [Surroundings.shown, h] at he
    dsimp only at he
    rw [hfilter] at he
    have hmem : e ∈ (review s.configPath c).1 := (List.mem_filter.1 he).1
    rw [(run_of_filter h hfilter).1]
    cases hfault : c.fault? with
    | none => rfl
    | some fault => exact absurd hmessage (message_of_fault hfault hmem)

/-! ## The verdict -/

/-- Where no character is torn, the program succeeds just if the configuration can be loaded and is
valid. -/
theorem exitCode_run (h : ¬s.Tears) :
    ((run s).exitCode = 0 ∧ ∃ c, s.load = .ok c ∧ c.validate = .ok ()) ∨
      ((run s).exitCode = 1 ∧ ¬∃ c, s.load = .ok c ∧ c.validate = .ok ()) := by
  rcases s.load_cases with ⟨e, hload⟩ | ⟨c, hload, hfilter⟩ | ⟨c, filter, hload, hfilter⟩
  · refine .inr ⟨(run_of_error hload).1, ?_⟩
    rintro ⟨c, hc, -⟩
    cases hload.symm.trans hc
  · exact absurd ⟨c, hload, hfilter⟩ h
  · rw [(run_of_filter hload hfilter).1]
    by_cases hfault : c.fault? = none
    · rw [if_pos hfault]
      exact .inl ⟨rfl, c, hload, EngineConfig.validate_eq_ok_iff.2 hfault⟩
    · rw [if_neg hfault]
      refine .inr ⟨rfl, ?_⟩
      rintro ⟨c', hc', hvalid⟩
      cases hload.symm.trans hc'
      exact hfault (EngineConfig.validate_eq_ok_iff.1 hvalid)

/-- Whether there is a valid configuration depends on what is said about hooks. -/
theorem exists_valid_congr {s s' : Surroundings}
    (h : s'.load.toOption.map EngineConfig.hooks = s.load.toOption.map EngineConfig.hooks)
    (hvalid : ∃ c, s.load = .ok c ∧ c.validate = .ok ()) :
    ∃ c, s'.load = .ok c ∧ c.validate = .ok () := by
  obtain ⟨c, hc, hvalid⟩ := hvalid
  rw [hc] at h
  cases hc' : s'.load with
  | error e =>
    rw [hc'] at h
    cases h
  | ok c' =>
    rw [hc'] at h
    exact ⟨c', rfl, (EngineConfig.validate_congr (Option.some.inj h)).trans hvalid⟩

/-- **The exit code is the verdict, unless a directive tears a character.**  The configuration is looked
for where the environment says, else where the first argument says, else at the default path.  Where no
character is torn, the program succeeds just if the configuration that is there can be loaded and is
valid, and fails with 1 otherwise; and then nothing that is said about the log has a part in it, be it in
the environment or in the configuration.  Where a character is torn, the exit code is 101, and there is a
directive that begins with white space and has a character of several bytes.  In no case is it shown that
the configuration is loaded unless the program succeeds. -/
theorem run_verdict (s : Surroundings) :
    (s.configPath = match s.configVariable, s.arguments with
      | some path, _ => path
      | none, path :: _ => path
      | none, [] => "config/hooks.toml") ∧
    (¬s.Tears →
      ((run s).exitCode = 0 ↔ ∃ c, s.load = .ok c ∧ c.validate = .ok ()) ∧
      ((run s).exitCode ≠ 0 → (run s).exitCode = 1) ∧
      ∀ s' : Surroundings, ¬s'.Tears →
        s'.load.toOption.map EngineConfig.hooks = s.load.toOption.map EngineConfig.hooks →
        (run s').exitCode = (run s).exitCode) ∧
    (s.Tears → (run s).exitCode = 101 ∧
      ∃ text, (s.filterVariable = some text ∨ ∃ c, s.load = .ok c ∧ text = c.settings.level) ∧
        ∃ part ∈ LogFilter.parts text,
          (∃ c rest, part.toList = c :: rest ∧ Text.isBlankChar c = true) ∧
          ∃ c ∈ part.toList, c.utf8Size ≠ 1) ∧
    (run s).log = s.shown.flatMap (·.lines ((s.load.toOption.map EngineConfig.settings).getD {})) ∧
    ∀ e ∈ s.shown, e.message = "Hook engine config loaded" → (run s).exitCode = 0 := by
  refine ⟨s.configPath_eq, fun h => ?_, ?_, log_run s, fun e => exitCode_of_mem_shown⟩
  · rcases exitCode_run h with ⟨hzero, hvalid⟩ | ⟨hone, hinvalid⟩
    · refine ⟨iff_of_true hzero hvalid, fun hne => absurd hzero hne, fun s' h' hsame => ?_⟩
      rcases exitCode_run h' with ⟨hzero', -⟩ | ⟨-, hinvalid'⟩
      · rw [hzero, hzero']
      · exact absurd (exists_valid_congr hsame hvalid) hinvalid'
    · refine ⟨iff_of_false ?_ hinvalid, fun _ => hone, fun s' h' hsame => ?_⟩
      · rw [hone]
        exact nofun
      · rcases exitCode_run h' with ⟨-, hvalid'⟩ | ⟨hone', -⟩
        · exact absurd (exists_valid_congr hsame.symm hvalid') hinvalid
        · rw [hone, hone']
  · rintro ⟨c, hload, hfilter⟩
    obtain ⟨text, htext, part, hpart, htorn⟩ := Surroundings.exists_hasTorn hfilter
    refine ⟨(run_of_tears hload hfilter).1, text, htext.imp id fun h => ⟨c, hload, h⟩, part, hpart, ?_⟩
    exact LogDirective.of_isTorn (LogDirective.isTorn_iff.2 htorn)

/-- Nothing on disk, and a filter of one directive, in front of which there is a space. -/
def shifted : Surroundings where
  filterVariable := some " é=info"
  disk _ := none

/-- The same directive in the settings of a configuration. -/
def shiftedLevel : Surroundings where
  disk _ := some (.text "[logging]\nlevel = \" é=info\"\n")

/-- **The log is not without influence.**  A space in front of a directive ends a program that has a
valid configuration, whether the directive stands in the environment or in the configuration; and with
another directive the program succeeds. -/
theorem exitCode_shifted :
    ((¬∀ s : Surroundings, (∃ c, s.load = .ok c ∧ c.validate = .ok ()) → (run s).exitCode = 0) ∧
      ¬∀ (s : Surroundings) (filterVariable : Option String),
        (run { s with filterVariable }).exitCode = (run s).exitCode) ∧
    (run shifted).exitCode = 101 ∧ (run shiftedLevel).exitCode = 101 ∧
    (run { shifted with filterVariable := some "é=info" }).exitCode = 0 ∧
    (run { shiftedLevel with filterVariable := some "é=info" }).exitCode = 0 := by
  have htorn : (run shifted).exitCode = 101 := by decide +kernel
  have hwhole : (run { shifted with filterVariable := some "é=info" }).exitCode = 0 := by
    decide +kernel
  refine ⟨⟨fun hclaim => ?_, fun hclaim => ?_⟩, htorn, by decide +kernel, hwhole, by decide +kernel⟩
  · have hvalid : ({} : EngineConfig).validate = .ok () := by decide +kernel
    cases htorn.symm.trans (hclaim shifted ⟨{}, rfl, hvalid⟩)
  · cases htorn.symm.trans ((hclaim shifted (some "é=info")).symm.trans hwhole)

end Program

end AuctionHooks
