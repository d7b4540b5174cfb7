import AuctionHooks.Document.Codec.Config
import AuctionHooks.Document.Codec.Outcome
import AuctionHooks.Document.Json.Reader
import AuctionHooks.Proofs.DocumentRecordLaw
import AuctionHooks.Proofs.StageKeys

/-!
# Records are decoded field by field

A configuration need not say everything.  A field that is not mentioned has the value that it has where
nothing is configured at all; what is mentioned has to fit its field; and entries that name no field do
not matter, nor does the order in which the entries stand.

This is what `Decoder.FieldWise` says of the decoder of a type.  The fields of the type are listed for it,
each with its name, the decoder of its values and its place (`RecordField`).  What is read is then told
by its fields, one by one, and so is whether anything is read at all.  Readers of records are put
together from their fields, so the same is said of readers (`RecordReader.FieldWise`) and carried over
from a single field to all of them.

An entry that names no field still has to be skipped over.  Every JSON document can be, in all its parts
(`Json.isPassable_of_parse`), so nothing that such an entry holds can get in the way.

## Main statement

`decode_fieldWise`, for all eight types that are decoded leniently, and for the stages of an endpoint.
-/

namespace AuctionHooks

open RecordReader (Passable)

/-! ## What can be skipped over -/

namespace Json

/-- A number can be skipped over, even one that is too large to be read. -/
theorem isPassable_value (n : Numeral) : n.value.isPassable = true := by
  unfold Numeral.value
  dsimp only
  split
  · rfl
  · split <;> rfl

/-- What is too deep is skipped over, too. -/
theorem isPassable_atDepth {v : Value} (h : v.isPassable = true) (depth : Nat) :
    (atDepth depth v).isPassable = true := by
  unfold atDepth
  split
  · rfl
  · exact h

/-- What the three readers give when they may take so many steps: values that can be skipped over. -/
structure ReadPassable (fuel : Nat) : Prop where
  value : ∀ depth cs v rest, readValue fuel depth cs = some (v, rest) → v.isPassable = true
  items : ∀ depth cs vs rest, readItems fuel depth cs = some (vs, rest) →
    ∀ v ∈ vs, v.isPassable = true
  entries : ∀ depth cs es rest, readEntries fuel depth cs = some (some es, rest) → Passable es

namespace ReadPassable

variable {fuel depth : Nat} {cs rest : List Char}

/-- A value that is read in one more step can be skipped over. -/
theorem value_succ (ih : ReadPassable fuel) {v : Value}
    (h : readValue (fuel + 1) depth cs = some (v, rest)) : v.isPassable = true := by
  rw [readValue] at h
  -- The cases are the characters with which a value may begin.
  split at h
  · obtain ⟨⟨s, rest'⟩, -, h⟩ := Option.bind_eq_some_iff.1 h
    obtain ⟨rfl, -⟩ := Prod.mk.inj (Option.some.inj h)
    cases s <;> rfl
  · split at h
    · obtain ⟨rfl, -⟩ := Prod.mk.inj (Option.some.inj h)
      exact isPassable_atDepth rfl depth
    · obtain ⟨⟨items, rest'⟩, hitems, h⟩ := Option.bind_eq_some_iff.1 h
      obtain ⟨rfl, -⟩ := Prod.mk.inj (Option.some.inj h)
      exact isPassable_atDepth (Value.everyLeaf_list (ih.items _ _ _ _ hitems)) depth
  · split at h
    · obtain ⟨rfl, -⟩ := Prod.mk.inj (Option.some.inj h)
      exact isPassable_atDepth rfl depth
    · obtain ⟨⟨entries, rest'⟩, hentries, h⟩ := Option.bind_eq_some_iff.1 h
      obtain ⟨rfl, -⟩ := Prod.mk.inj (Option.some.inj h)
      refine isPassable_atDepth ?_ depth
      cases entries with
      | none => rfl
      | some es => exact Value.everyLeaf_record (ih.entries _ _ _ _ hentries)
  · obtain ⟨_, -, h⟩ := Option.map_eq_some_iff.1 h
    obtain ⟨rfl, -⟩ := Prod.mk.inj h
    rfl
  · obtain ⟨_, -, h⟩ := Option.map_eq_some_iff.1 h
    obtain ⟨rfl, -⟩ := Prod.mk.inj h
    rfl
  · obtain ⟨_, -, h⟩ := Option.map_eq_some_iff.1 h
    obtain ⟨rfl, -⟩ := Prod.mk.inj h
    rfl
  · obtain ⟨⟨n, rest'⟩, -, h⟩ := Option.bind_eq_some_iff.1 h
    obtain ⟨rfl, -⟩ := Prod.mk.inj (Option.some.inj h)
    exact isPassable_value n

theorem items_succ (ih : ReadPassable fuel) {vs : List Value}
    (h : readItems (fuel + 1) depth cs = some (vs, rest)) : ∀ v ∈ vs, v.isPassable = true := by
  rw [readItems] at h
  obtain ⟨⟨v, rest'⟩, hv, h⟩ := Option.bind_eq_some_iff.1 h
  have hfirst := ih.value _ _ _ _ hv
  dsimp only at h
  split at h
  · obtain ⟨rfl, -⟩ := Prod.mk.inj (Option.some.inj h)
    simpa using hfirst
  · obtain ⟨⟨others, rest''⟩, hothers, h⟩ := Option.bind_eq_some_iff.1 h
    obtain ⟨rfl, -⟩ := Prod.mk.inj (Option.some.inj h)
    exact List.forall_mem_cons.2 ⟨hfirst, ih.items _ _ _ _ hothers⟩
  · cases h

theorem entries_succ (ih : ReadPassable fuel) {es : List (String × Value)}
    (h : readEntries (fuel + 1) depth cs = some (some es, rest)) : Passable es := by
  rw [readEntries] at h
  split at h
  · obtain ⟨⟨name, rest'⟩, -, h⟩ := Option.bind_eq_some_iff.1 h
    dsimp only at h
    split at h
    · obtain ⟨⟨v, rest''⟩, hv, h⟩ := Option.bind_eq_some_iff.1 h
      have hfirst := ih.value _ _ _ _ hv
      dsimp only at h
      split at h
      -- A name that cannot be read leaves no entries at all.
      · obtain ⟨hentry, -⟩ := Prod.mk.inj (Option.some.inj h)
        cases name with
        | none => cases hentry
        | some name =>
          obtain rfl := Option.some.inj hentry
          exact List.forall_mem_singleton.2 hfirst
      · obtain ⟨⟨others, rest'''⟩, hothers, h⟩ := Option.bind_eq_some_iff.1 h
        obtain ⟨hentry, -⟩ := Prod.mk.inj (Option.some.inj h)
        cases name with
        | none => cases hentry
        | some name =>
          cases others with
          | none => cases hentry
          | some others =>
            obtain rfl := Option.some.inj hentry
            exact List.forall_mem_cons.2 ⟨hfirst, ih.entries _ _ _ _ hothers⟩
      · cases h
    · cases h
  · cases h

end ReadPassable

/-- The readers call each other with one step less, so all three are dealt with in one induction. -/
theorem readPassable (fuel : Nat) : ReadPassable fuel := by
  induction fuel with
  | zero =>
    refine ⟨fun depth cs v rest h => ?_, fun depth cs vs rest h => ?_, fun depth cs es rest h => ?_⟩
    · rw [readValue] at h
      cases h
    · rw [readItems] at h
      cases h
    · rw [readEntries] at h
      cases h
  | succ fuel ih =>
    exact ⟨fun _ _ _ _ => ih.value_succ, fun _ _ _ _ => ih.items_succ, fun _ _ _ _ => ih.entries_succ⟩

/-- **Every JSON document can be skipped over**, whatever it holds. -/
theorem isPassable_of_parse {s : String} {v : Value} (h : parse s = some v) :
    v.isPassable = true := by
  obtain ⟨⟨v', rest⟩, hread, h⟩ := Option.bind_eq_some_iff.1 h
  dsimp only at h
  split at h
  · obtain rfl := Option.some.inj h
    exact (readPassable _).value _ _ _ _ hread
  · cases h

end Json

/-- The values of a record that can be skipped over can be, too. -/
theorem Value.passable_of_isPassable {es : List (String × Value)}
    (h : (Value.record es).isPassable = true) : Passable es := by
  have hall : entriesEveryLeaf _ es = true := h
  induction es with
  | nil => exact List.forall_mem_nil _
  | cons e rest ih =>
    rw [entriesEveryLeaf, Bool.and_eq_true] at hall
    exact List.forall_mem_cons.2 ⟨hall.1, ih hall.2 hall.2⟩

/-! ## Fields -/

/-- A field of a type: its name in records, the decoder of its values, and its value. -/
structure RecordField (α : Type) where
  {β : Type}
  name : String
  decoder : Decoder β
  get : α → β

variable {α β : Type}

namespace RecordField

/-- That a field has what a record says of it: what is decoded from the entry with its name, or what the
field has where nothing is said, if there is no such entry. -/
structure Holds (F : RecordField α) (f : Format) (es : List (String × Value)) (unsaid a : α) :
    Prop where
  present : ∀ v, (F.name, v) ∈ es → F.decoder f v = .ok (F.get a)
  absent : F.name ∉ es.map Prod.fst → F.get a = F.get unsaid

/-- That whatever a record says of a field can be decoded. -/
def Decodes (F : RecordField α) (f : Format) (es : List (String × Value)) : Prop :=
  ∀ v, (F.name, v) ∈ es → ∃ b, F.decoder f v = .ok b

/-- A field of a part as a field of the whole. -/
def within (F : RecordField α) (part : β → α) : RecordField β :=
  ⟨F.name, F.decoder, fun b => F.get (part b)⟩

variable {F : RecordField α} {f : Format} {es : List (String × Value)} {unsaid a : α} {v : Value}

/-- A field of a part has in the whole what it has in the part. -/
theorem holds_within {part : β → α} {unsaid b : β} :
    (F.within part).Holds f es unsaid b ↔ F.Holds f es (part unsaid) (part b) := by
  constructor
  · intro h
    exact ⟨h.present, h.absent⟩
  · intro h
    exact ⟨h.present, h.absent⟩

/-- What a field has if there is an entry with its name. -/
theorem holds_iff_of_lookup (hnodup : (es.map Prod.fst).Nodup) (h : es.lookup F.name = some v) :
    F.Holds f es unsaid a ↔ F.decoder f v = .ok (F.get a) := by
  have hmem : (F.name, v) ∈ es := by
    obtain ⟨before, after, rfl, -⟩ := List.lookup_eq_some_iff.1 h
    simp
  constructor
  · intro hholds
    exact hholds.present v hmem
  · intro hv
    refine ⟨fun w hw => ?_, fun hnot => ?_⟩
    · have hsame : v = w := Option.some.inj (h.symm.trans (lookup_of_mem hnodup hw))
      rw [← hsame]
      exact hv
    · exact absurd (List.mem_map_of_mem hmem) hnot

theorem holds_iff_of_lookup_none (h : es.lookup F.name = none) :
    F.Holds f es unsaid a ↔ F.get a = F.get unsaid := by
  have hnot : F.name ∉ es.map Prod.fst := lookup_eq_none_iff.1 h
  constructor
  · intro hholds
    exact hholds.absent hnot
  · intro ha
    exact ⟨fun v hv => absurd (List.mem_map_of_mem hv) hnot, fun _ => ha⟩

/-- Whether what is said of a field can be decoded if there is an entry with its name. -/
theorem decodes_iff_of_lookup (hnodup : (es.map Prod.fst).Nodup) (h : es.lookup F.name = some v) :
    F.Decodes f es ↔ ∃ b, F.decoder f v = .ok b := by
  constructor
  · intro hdecodes
    obtain ⟨before, after, rfl, -⟩ := List.lookup_eq_some_iff.1 h
    exact hdecodes v (by simp)
  · intro hv w hw
    have hsame : v = w := Option.some.inj (h.symm.trans (lookup_of_mem hnodup hw))
    rw [← hsame]
    exact hv

theorem decodes_of_lookup_none (h : es.lookup F.name = none) : F.Decodes f es := by
  intro v hv
  exact absurd (List.mem_map_of_mem hv) (lookup_eq_none_iff.1 h)

end RecordField

/-! ## Readers of fields -/

/-- That a reader reads a record field by field. -/
structure RecordReader.FieldWise (r : RecordReader α) (unsaid : α) (fields : List (RecordField α)) :
    Prop where
  names : fields.map RecordField.name = r.names
  reads : ∀ f es, Passable es → (es.map Prod.fst).Nodup → ∀ a,
    (r.readEntries f es = .ok a ↔ ∀ F ∈ fields, F.Holds f es unsaid a)
  succeeds : ∀ f es, Passable es → (es.map Prod.fst).Nodup →
    ((∃ a, r.readEntries f es = .ok a) ↔ ∀ F ∈ fields, F.Decodes f es)

namespace RecordReader

/-- A single field is read by itself. -/
theorem fieldWise_withDefault (name : String) (d : Decoder α) (default : α) :
    (withDefault name d default).FieldWise default [⟨name, d, id⟩] where
  names := rfl
  reads f es hpass hnodup a := by
    rw [List.forall_mem_singleton, withDefault, readEntries_field name d _ hpass hnodup]
    cases hlookup : es.lookup name with
    | none =>
      rw [RecordField.holds_iff_of_lookup_none hlookup]
      exact ⟨fun h => (Except.ok.inj h).symm, fun h => congrArg Except.ok h.symm⟩
    | some v => exact Iff.symm (RecordField.holds_iff_of_lookup hnodup hlookup)
  succeeds f es hpass hnodup := by
    rw [List.forall_mem_singleton, withDefault, readEntries_field name d _ hpass hnodup]
    cases hlookup : es.lookup name with
    | none => exact iff_of_true ⟨default, rfl⟩ (RecordField.decodes_of_lookup_none hlookup)
    | some v => exact Iff.symm (RecordField.decodes_iff_of_lookup hnodup hlookup)

variable {r : RecordReader α} {s : RecordReader β} {unsaid : α} {unsaid' : β}
  {fields : List (RecordField α)} {fields' : List (RecordField β)}

/-- Two readers side by side read the fields of both. -/
theorem FieldWise.and (hr : r.FieldWise unsaid fields) (hs : s.FieldWise unsaid' fields')
    (hnames : ∀ name ∈ r.names, name ∉ s.names) :
    (r.and s).FieldWise (unsaid, unsaid')
      (fields.map (·.within Prod.fst) ++ fields'.map (·.within Prod.snd)) where
  names := by
    rw [names_and, ← hr.names, ← hs.names, List.map_append, List.map_map, List.map_map]
    rfl
  reads f es hpass hnodup := by
    rintro ⟨a, b⟩
    rw [readEntries_and_iff (fun name hr hs => hnames name hr hs) hpass, hr.reads f es hpass hnodup,
      hs.reads f es hpass hnodup, List.forall_mem_append, List.forall_mem_map, List.forall_mem_map]
    simp only [RecordField.holds_within]
  succeeds f es hpass hnodup := by
    rw [List.forall_mem_append, List.forall_mem_map, List.forall_mem_map]
    have hread : ∀ a b, (r.and s).readEntries f es = .ok (a, b) ↔
        r.readEntries f es = .ok a ∧ s.readEntries f es = .ok b :=
      fun a b => readEntries_and_iff (fun name hr hs => hnames name hr hs) hpass
    constructor
    · rintro ⟨⟨a, b⟩, h⟩
      obtain ⟨ha, hb⟩ := (hread a b).1 h
      exact ⟨(hr.succeeds f es hpass hnodup).1 ⟨a, ha⟩, (hs.succeeds f es hpass hnodup).1 ⟨b, hb⟩⟩
    · rintro ⟨hleft, hright⟩
      obtain ⟨a, ha⟩ := (hr.succeeds f es hpass hnodup).2 hleft
      obtain ⟨b, hb⟩ := (hs.succeeds f es hpass hnodup).2 hright
      exact ⟨(a, b), (hread a b).2 ⟨ha, hb⟩⟩

/-- What is made of what is read has the fields of its parts. -/
theorem FieldWise.map (h : r.FieldWise unsaid fields) {make : α → β} (parts : β → α)
    (hparts : ∀ a, parts (make a) = a) (hmake : ∀ b, make (parts b) = b) :
    (r.map make).FieldWise (make unsaid) (fields.map (·.within parts)) where
  names := by
    rw [List.map_map]
    exact h.names
  reads f es hpass hnodup b := by
    have hread : (r.map make).readEntries f es = .ok b ↔ r.readEntries f es = .ok (parts b) := by
      rw [readEntries_map]
      cases r.readEntries f es with
      | error e => exact ⟨nofun, nofun⟩
      | ok a =>
        constructor
        · intro ha
          rw [← Except.ok.inj ha, hparts]
        · intro ha
          rw [Except.ok.inj ha]
          exact congrArg Except.ok (hmake b)
    rw [hread, h.reads f es hpass hnodup, List.forall_mem_map]
    simp only [RecordField.holds_within, hparts]
  succeeds f es hpass hnodup := by
    rw [List.forall_mem_map, readEntries_map]
    refine Iff.trans ?_ (h.succeeds f es hpass hnodup)
    cases r.readEntries f es with
    | error e => exact ⟨nofun, nofun⟩
    | ok a => exact iff_of_true ⟨make a, rfl⟩ ⟨a, rfl⟩

end RecordReader

/-! ## Decoders of records -/

/-- **That a decoder reads records field by field.**  Each field has what the record says of it, and where
the record says nothing the field has its value of `unsaid`; and something is read just if all that is
said of fields can be decoded.  This is so for all records that can be skipped over and in which no name
stands twice, in whatever order their entries stand and whatever entries there are besides. -/
structure Decoder.FieldWise (d : Decoder α) (unsaid : α) (fields : List (RecordField α)) :
    Prop where
  distinct : (fields.map RecordField.name).Nodup
  reads : ∀ f es, (Value.record es).isPassable = true → (es.map Prod.fst).Nodup → ∀ a,
    (d f (.record es) = .ok a ↔ ∀ F ∈ fields, F.Holds f es unsaid a)
  succeeds : ∀ f es, (Value.record es).isPassable = true → (es.map Prod.fst).Nodup →
    ((∃ a, d f (.record es) = .ok a) ↔ ∀ F ∈ fields, F.Decodes f es)

/-- A record is decoded as its entries are read. -/
theorem RecordReader.FieldWise.decode {r : RecordReader α} {unsaid : α}
    {fields : List (RecordField α)} (h : r.FieldWise unsaid fields) (hnames : r.names.Nodup) :
    r.decode.FieldWise unsaid fields where
  distinct := by
    rw [h.names]
    exact hnames
  reads f es hpass := h.reads f es (Value.passable_of_isPassable hpass)
  succeeds f es hpass := h.succeeds f es (Value.passable_of_isPassable hpass)

/-! ## The types -/

open RecordReader Decoder

def LogSettings.fields : List (RecordField LogSettings) :=
  [⟨"level", text, level⟩, ⟨"with_target", bool, withTarget⟩,
    ⟨"with_thread_ids", bool, withThreadIds⟩, ⟨"with_file", bool, withFile⟩,
    ⟨"with_line_number", bool, withLineNumber⟩, ⟨"json", bool, LogSettings.json⟩]

theorem LogSettings.fieldWise : LogSettings.decode.FieldWise {} LogSettings.fields := by
  have hrest := (fieldWise_withDefault "with_line_number" bool false).and
    (fieldWise_withDefault "json" bool false) (by decide)
  have hmost := (fieldWise_withDefault "with_thread_ids" bool false).and
    ((fieldWise_withDefault "with_file" bool false).and hrest (by decide)) (by decide)
  have hall := (fieldWise_withDefault "level" text "info").and
    ((fieldWise_withDefault "with_target" bool true).and hmost (by decide)) (by decide)
  exact (hall.map (fun s : LogSettings =>
    (s.level, s.withTarget, s.withThreadIds, s.withFile, s.withLineNumber, s.json))
    (fun _ => rfl) fun _ => rfl).decode (by decide)

example : LogSettings.decode .json
    (.record [("colour", .text "red"), ("with_target", .bool false)]) =
    .ok { withTarget := false } := rfl

def HookMessages.fields : List (RecordField HookMessages) :=
  [⟨"message", text.optional, message⟩, ⟨"errors", text.list, errors⟩,
    ⟨"warnings", text.list, warnings⟩, ⟨"debug_messages", text.list, debugMessages⟩]

theorem HookMessages.fieldWise : HookMessages.decode.FieldWise {} HookMessages.fields := by
  have hrest := (fieldWise_withDefault "warnings" text.list []).and
    (fieldWise_withDefault "debug_messages" text.list []) (by decide)
  have hall := (fieldWise_withDefault "message" text.optional none).and
    ((fieldWise_withDefault "errors" text.list []).and hrest (by decide)) (by decide)
  exact (hall.map (fun m : HookMessages => (m.message, m.errors, m.warnings, m.debugMessages))
    (fun _ => rfl) fun _ => rfl).decode (by decide)

def StagePlan.fields : List (RecordField StagePlan) :=
  [⟨"groups", HookGroup.decode.list, groups⟩]

theorem StagePlan.fieldWise : StagePlan.decode.FieldWise {} StagePlan.fields :=
  ((fieldWise_withDefault "groups" HookGroup.decode.list []).map StagePlan.groups
    (fun _ => rfl) fun _ => rfl).decode (by decide)

def EndpointPlan.fields : List (RecordField EndpointPlan) :=
  [⟨"stages", decodeStages, stages⟩]

theorem EndpointPlan.fieldWise : EndpointPlan.decode.FieldWise {} EndpointPlan.fields :=
  ((fieldWise_withDefault "stages" EndpointPlan.decodeStages ∅).map EndpointPlan.stages
    (fun _ => rfl) fun _ => rfl).decode (by decide)

def Plan.fields : List (RecordField Plan) :=
  [⟨"endpoints", EndpointPlan.decode.table, endpoints⟩]

theorem Plan.fieldWise : Plan.decode.FieldWise {} Plan.fields :=
  ((fieldWise_withDefault "endpoints" EndpointPlan.decode.table ∅).map Plan.endpoints
    (fun _ => rfl) fun _ => rfl).decode (by decide)

def HooksConfig.fields : List (RecordField HooksConfig) :=
  [⟨"modules", bool.table, modules⟩, ⟨"host_execution_plan", Plan.decode, hostPlan⟩]

theorem HooksConfig.fieldWise : HooksConfig.decode.FieldWise {} HooksConfig.fields := by
  have hall := (fieldWise_withDefault "modules" ModuleSwitches.decode ∅).and
    (fieldWise_withDefault "host_execution_plan" Plan.decode {}) (by decide)
  exact (hall.map (fun c : HooksConfig => (c.modules, c.hostPlan)) (fun _ => rfl)
    fun _ => rfl).decode (by decide)

def EngineConfig.fields : List (RecordField EngineConfig) :=
  [⟨"logging", LogSettings.decode.optional, logging⟩, ⟨"hooks", HooksConfig.decode, hooks⟩]

theorem EngineConfig.fieldWise : EngineConfig.decode.FieldWise {} EngineConfig.fields := by
  have hall := (fieldWise_withDefault "logging" LogSettings.decode.optional none).and
    (fieldWise_withDefault "hooks" HooksConfig.decode {}) (by decide)
  exact (hall.map (fun c : EngineConfig => (c.logging, c.hooks)) (fun _ => rfl)
    fun _ => rfl).decode (by decide)

def AccountConfig.fields : List (RecordField AccountConfig) :=
  [⟨"execution_plan", Plan.decode.optional, plan⟩, ⟨"modules", bool.table, modules⟩]

theorem AccountConfig.fieldWise : AccountConfig.decode.FieldWise {} AccountConfig.fields := by
  have hall := (fieldWise_withDefault "execution_plan" Plan.decode.optional none).and
    (fieldWise_withDefault "modules" ModuleSwitches.decode ∅) (by decide)
  exact (hall.map (fun c : AccountConfig => (c.plan, c.modules)) (fun _ => rfl)
    fun _ => rfl).decode (by decide)

/-! ## All of it -/

/-- **Configurations are decoded field by field.**  What is said of a field is decoded as its value, what
is not said is as in the configuration that says nothing, and nothing else is asked for.  The stages of an
endpoint have keys in the place of fields: they are read just if all the keys denote stages and all the
values can be decoded, and if no two keys denote one stage then each of them is there, and nothing else. -/
theorem decode_fieldWise :
    (∀ s v, Json.parse s = some v → v.isPassable = true) ∧
    LogSettings.decode.FieldWise {} LogSettings.fields ∧
    HookMessages.decode.FieldWise {} HookMessages.fields ∧
    StagePlan.decode.FieldWise {} StagePlan.fields ∧
    EndpointPlan.decode.FieldWise {} EndpointPlan.fields ∧
    Plan.decode.FieldWise {} Plan.fields ∧
    HooksConfig.decode.FieldWise {} HooksConfig.fields ∧
    EngineConfig.decode.FieldWise {} EngineConfig.fields ∧
    AccountConfig.decode.FieldWise {} AccountConfig.fields ∧
    (∀ es, (∃ stages, EndpointPlan.decodeStages .json (.record es) = .ok stages) ↔
      ∀ e ∈ es, (∃ stage, Stage.ofText? e.1 = some stage) ∧
        ∃ plan, StagePlan.decode .json e.2 = .ok plan) ∧
    ∀ es stages, EndpointPlan.decodeStages .json (.record es) = .ok stages →
      (es.map fun e => Stage.ofText? e.1).Nodup →
      ∃ m, EndpointPlan.StagesAre .json es m ∧ stages.toList.Perm m :=
  ⟨fun _ _ => Json.isPassable_of_parse, LogSettings.fieldWise, HookMessages.fieldWise,
    StagePlan.fieldWise, EndpointPlan.fieldWise, Plan.fieldWise, HooksConfig.fieldWise,
    EngineConfig.fieldWise, AccountConfig.fieldWise, fun _ => EndpointPlan.exists_decodeStages_iff,
    fun _ _ => EndpointPlan.exists_toList_perm⟩

end AuctionHooks
