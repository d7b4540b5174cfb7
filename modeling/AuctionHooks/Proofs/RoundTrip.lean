import AuctionHooks.Proofs.CodecLaw
import AuctionHooks.Proofs.StageName

/-!
# What is written is read as it was

Every type that is written to JSON is read from it again, and nothing is lost on the way.  Here this is
put together for each of them from the laws of the combinators, so that a proof lists the fields of its
type with what stands in them.  Only two types need more than that.  The keys of the stages of an endpoint
are texts when they are written and stages when they are read, and they are read leniently; so a name has
to denote its own stage (`Stage.ofText?_name`).  And the messages of an outcome have no record of their
own, so the outcome is read by two readers, one after the other.

The number in each statement is the number of levels that the type takes; the deepest is a configuration
of the host, with eleven.

## Main statement

`read_compact_toValue`, for all thirteen types at once.
-/

namespace AuctionHooks

open Decoder RecordReader

/-! ## Plans -/

theorem HookId.undoes : HookId.decode.Undoes HookId.toValue 1 := by
  have hfields := (undoes_required (undoes_text 0) "module-code").and
    (undoes_required (undoes_text 0) "hook-impl-code") (by decide)
  exact (hfields.map (fun h : HookId => (h.moduleCode, h.hookCode)) fun _ => rfl).decode (by decide)

theorem HookGroup.undoes : HookGroup.decode.Undoes HookGroup.toValue 3 := by
  have hfields := (undoes_required (undoes_natural 2) "timeout").and
    (undoes_withDefault HookId.undoes.list "hook-sequence" []) (by decide)
  exact (hfields.map (fun g : HookGroup => (g.timeout, g.hooks)) fun _ => rfl).decode (by decide)

theorem StagePlan.undoes : StagePlan.decode.Undoes StagePlan.toValue 5 := by
  have hfields := undoes_withDefault HookGroup.undoes.list "groups" []
  exact (hfields.map StagePlan.groups fun _ => rfl).decode (by decide)

namespace EndpointPlan

/-- The stages of an endpoint as a value tree. -/
def stagesToValue (stages : Table Stage StagePlan) : Value :=
  .record (stages.toList.map fun e => (e.1.name, e.2.toValue))

/-- Keys that are the names of stages are taken for those stages one by one. -/
theorem foldlM_insert_stageOfKey (l : List (Stage × StagePlan)) (known : Table Stage StagePlan) :
    (l.map fun e => (e.1.name, e.2)).foldlM
        (fun known e => (known.insert · e.2) <$> stageOfKey e.1) known =
      .ok (known.insertAll l) := by
  induction l generalizing known with
  | nil => rfl
  | cons e rest ih =>
    rw [List.map_cons, List.foldlM_cons, stageOfKey, Stage.ofText?_name]
    exact ih (known.insert e.1 e.2)

/-- A table whose keys are the names of stages is read as the table of these stages. -/
theorem stagesOfKeys_eq {t : Table String StagePlan} {stages : Table Stage StagePlan}
    (h : t.toList.Perm (stages.toList.map fun e => (e.1.name, e.2))) :
    stagesOfKeys t = .ok stages := by
  have hcomp := congrFun (congrFun
    (List.eq_map_comp_perm fun e : Stage × StagePlan => (e.1.name, e.2)) t.toList) stages.toList
  obtain ⟨l, ht, hl⟩ := hcomp.mpr h
  rw [stagesOfKeys, ht, stagesAlong, foldlM_insert_stageOfKey]
  exact congrArg Except.ok (Table.ofList_eq_of_perm hl.symm)

theorem undoes_stages : decodeStages.Undoes stagesToValue 6 where
  fits stages := .record fun e he => by
    obtain ⟨x, -, rfl⟩ := List.mem_map.1 he
    exact StagePlan.undoes.fits x.2
  reads f stages w hw := by
    have hmap : stagesToValue stages =
        .record ((stages.toList.map fun e => (e.1.name, e.2)).map fun e => (e.1, e.2.toValue)) := by
      rw [List.map_map]
      rfl
    rw [hmap] at hw
    obtain ⟨l, es, rfl, hperm, hentries⟩ := StagePlan.undoes.exists_entries f hw
    have hnodup : ((stages.toList.map fun e => (e.1.name, e.2)).map Prod.fst).Nodup := by
      have hnames := stages.nodup_keys.map Stage.name_injective
      rwa [List.map_map] at hnames ⊢
    have hkeys : (Table.ofList l).toList.Perm (stages.toList.map fun e => (e.1.name, e.2)) :=
      (Table.toList_ofList_perm ((hperm.map Prod.fst).nodup_iff.1 hnodup)).trans hperm.symm
    show (Decoder.table StagePlan.decode f (.record es) >>= stagesOfKeys) = _
    rw [table_record hentries]
    exact stagesOfKeys_eq hkeys

theorem undoes : decode.Undoes toValue 7 :=
  ((undoes_withDefault undoes_stages "stages" ∅).map EndpointPlan.stages fun _ => rfl).decode
    (by decide)

end EndpointPlan

theorem Plan.undoes : Plan.decode.Undoes Plan.toValue 9 :=
  ((undoes_withDefault EndpointPlan.undoes.table "endpoints" ∅).map Plan.endpoints
    fun _ => rfl).decode (by decide)

/-! ## Records of runs -/

theorem HookStatus.undoes (n : Nat) : HookStatus.decode.Undoes HookStatus.toValue n :=
  undoes_variant n fun a => by cases a <;> decide

theorem HookAction.undoes (n : Nat) : HookAction.decode.Undoes HookAction.toValue n :=
  undoes_variant n fun a => by cases a <;> decide

theorem HookMessages.undoes_reader : HookMessages.reader.Undoes HookMessages.toEntries 1 := by
  have htexts := (undoes_text 0).list
  have hfields := (undoes_withDefault ((undoes_text 1).optional nofun) "message" none).and
    ((undoes_withDefault htexts "errors" []).and
      ((undoes_withDefault htexts "warnings" []).and
        (undoes_withDefault htexts "debug_messages" []) (by decide)) (by decide)) (by decide)
  exact hfields.map (fun m : HookMessages => (m.message, m.errors, m.warnings, m.debugMessages))
    fun _ => rfl

theorem HookMessages.undoes : HookMessages.decode.Undoes HookMessages.toValue 2 :=
  HookMessages.undoes_reader.decode (by decide)

theorem HookOutcome.undoes : HookOutcome.decode.Undoes HookOutcome.toValue 2 := by
  have hown := (undoes_required HookId.undoes "hook_id").and
    ((undoes_required (HookStatus.undoes 1) "status").and
      ((undoes_optional (HookAction.undoes 1) nofun "action").and
        (undoes_required (undoes_natural 1) "execution_time_ms") (by decide)) (by decide))
    (by decide)
  have hboth := hown.decodeBeside HookMessages.undoes_reader (by decide)
  refine ⟨fun o => hboth.fits ((o.hook, o.status, o.action, o.executionTime), o.messages),
    fun f o w hw => ?_⟩
  have hread : HookOutcome.ownReader.decodeBeside HookMessages.reader f w = _ :=
    hboth.reads f ((o.hook, o.status, o.action, o.executionTime), o.messages) w hw
  rw [HookOutcome.decode, hread]
  rfl

theorem GroupOutcome.undoes : GroupOutcome.decode.Undoes GroupOutcome.toValue 4 :=
  ((undoes_required HookOutcome.undoes.list "hooks").map GroupOutcome.hooks
    fun _ => rfl).decode (by decide)

theorem StageOutcome.undoes : StageOutcome.decode.Undoes StageOutcome.toValue 6 := by
  have hfields := (undoes_required (undoes_text 5) "entity").and
    (undoes_required GroupOutcome.undoes.list "groups") (by decide)
  exact (hfields.map (fun o : StageOutcome => (o.entity, o.groups)) fun _ => rfl).decode (by decide)

/-! ## Configurations -/

theorem ModuleSwitches.undoes (n : Nat) :
    ModuleSwitches.decode.Undoes ModuleSwitches.toValue (n + 1) :=
  (undoes_bool n).table

theorem LogSettings.undoes (n : Nat) : LogSettings.decode.Undoes LogSettings.toValue (n + 1) := by
  have hbool := fun name default => undoes_withDefault (undoes_bool n) name default
  have hfields := (undoes_withDefault (undoes_text n) "level" "info").and
    ((hbool "with_target" true).and
      ((hbool "with_thread_ids" false).and
        ((hbool "with_file" false).and
          ((hbool "with_line_number" false).and
            (hbool "json" false) (by decide)) (by decide)) (by decide)) (by decide)) (by decide)
  exact (hfields.map (fun s : LogSettings => (s.level, s.withTarget, s.withThreadIds, s.withFile,
    s.withLineNumber, s.json)) fun _ => rfl).decode (by decide)

theorem HooksConfig.undoes : HooksConfig.decode.Undoes HooksConfig.toValue 10 := by
  have hfields := (undoes_withDefault (ModuleSwitches.undoes 8) "modules" ∅).and
    (undoes_withDefault Plan.undoes "host_execution_plan" {}) (by decide)
  exact (hfields.map (fun c : HooksConfig => (c.modules, c.hostPlan)) fun _ => rfl).decode
    (by decide)

theorem EngineConfig.undoes : EngineConfig.decode.Undoes EngineConfig.toValue 11 := by
  have hfields := (undoes_withDefault ((LogSettings.undoes 9).optional nofun) "logging" none).and
    (undoes_withDefault HooksConfig.undoes "hooks" {}) (by decide)
  exact (hfields.map (fun c : EngineConfig => (c.logging, c.hooks)) fun _ => rfl).decode (by decide)

theorem AccountConfig.undoes : AccountConfig.decode.Undoes AccountConfig.toValue 10 := by
  have hfields := (undoes_withDefault (Plan.undoes.optional nofun) "execution_plan" none).and
    (undoes_withDefault (ModuleSwitches.undoes 8) "modules" ∅) (by decide)
  exact (hfields.map (fun c : AccountConfig => (c.plan, c.modules)) fun _ => rfl).decode (by decide)

/-! ## All of them -/

/-- That what an encoder makes of a value is read as that value by a decoder, after it was written in
compact form with the entries of records in any order. -/
def Decoder.RoundTrips {α : Type} (d : Decoder α) (encode : α → Value) : Prop :=
  ∀ a w, (encode a).Rearranges w → Json.read d (Json.compact w) = .ok a

/-- A decoder that undoes an encoder reads what was written. -/
theorem Decoder.Undoes.roundTrips {α : Type} {d : Decoder α} {encode : α → Value} {n : Nat}
    (h : d.Undoes encode n) (hn : n < Json.maxDepth) : d.RoundTrips encode :=
  fun _ _ hw => h.read hn hw

/-- **What is written is read as it was.**  Whatever the texts, numbers, keys and entries of a value
are, the compact form that is written for it can be read, and is read as that value; and it does not
matter in which order the entries of its tables, or of any other records in it, were written. -/
theorem read_compact_toValue :
    HookId.decode.RoundTrips HookId.toValue ∧
    HookGroup.decode.RoundTrips HookGroup.toValue ∧
    HookMessages.decode.RoundTrips HookMessages.toValue ∧
    HookOutcome.decode.RoundTrips HookOutcome.toValue ∧
    GroupOutcome.decode.RoundTrips GroupOutcome.toValue ∧
    StageOutcome.decode.RoundTrips StageOutcome.toValue ∧
    StagePlan.decode.RoundTrips StagePlan.toValue ∧
    EndpointPlan.decode.RoundTrips EndpointPlan.toValue ∧
    Plan.decode.RoundTrips Plan.toValue ∧
    LogSettings.decode.RoundTrips LogSettings.toValue ∧
    HooksConfig.decode.RoundTrips HooksConfig.toValue ∧
    EngineConfig.decode.RoundTrips EngineConfig.toValue ∧
    AccountConfig.decode.RoundTrips AccountConfig.toValue :=
  ⟨HookId.undoes.roundTrips (by decide), HookGroup.undoes.roundTrips (by decide),
    HookMessages.undoes.roundTrips (by decide), HookOutcome.undoes.roundTrips (by decide),
    GroupOutcome.undoes.roundTrips (by decide), StageOutcome.undoes.roundTrips (by decide),
    StagePlan.undoes.roundTrips (by decide), EndpointPlan.undoes.roundTrips (by decide),
    Plan.undoes.roundTrips (by decide), (LogSettings.undoes 0).roundTrips (by decide),
    HooksConfig.undoes.roundTrips (by decide), EngineConfig.undoes.roundTrips (by decide),
    AccountConfig.undoes.roundTrips (by decide)⟩

end AuctionHooks
