import AuctionHooks.Proofs.ByteOrder
import AuctionHooks.Proofs.FileName
import AuctionHooks.Proofs.Merging
import AuctionHooks.Proofs.Sequence

/-!
# What the configuration of a directory depends on

A directory is listed in whatever order the file system likes, and there may be anything in it.  Neither
shows in the configuration that is loaded from it.  Of what is there only the files count whose names say
that they are configurations; and these are loaded in the order of the bytes of their names, since later
files override the switches of earlier ones and add their groups behind them, and since of several files
that cannot be loaded one has to be the error of all.

## Two questions about one name

Whether a file counts is asked of its name, and which format it has is asked of its path.  The two
questions are put to different texts in different places.  They agree because a path has the ending of its
name (`FilePath.hasEnding_join`), which needs what a file system sees to, that a name is a single part of
a path.  It also sees to it that no name stands twice in a directory; hence there is one list of the
files that count, and only one (`ConfigFiles`).
-/

namespace AuctionHooks

/-- That a directory can be listed so: each entry has a name that an entry can have, and no name stands
twice. -/
structure FileTree.Listing (entries : List (String × FileTree)) : Prop where
  isName : ∀ e ∈ entries, FilePath.IsName e.1
  nodup : (entries.map Prod.fst).Nodup

namespace ConfigLoader

open FileTree (Listing)

/-- That an entry of a directory counts: it is no directory, and it is called a configuration. -/
def Counts (e : String × FileTree) : Prop :=
  e.2.isDirectory = false ∧ (FilePath.EndsIn e.1 "toml" ∨ FilePath.EndsIn e.1 "json")

/-- That some files are those of a directory that count, in the order of the bytes of their names. -/
structure ConfigFiles (entries files : List (String × FileTree)) : Prop where
  mem_iff : ∀ e, e ∈ files ↔ e ∈ entries ∧ Counts e
  ascending : files.Pairwise fun a b => Text.bytes a.1 < Text.bytes b.1

/-- What a directory comes to by its files: the merge of all configurations, in order, if every file
can be loaded, and else the error of the first that cannot. -/
inductive ComesTo (path : String) (files : List (String × FileTree)) :
    Except LoadError EngineConfig → Prop
  | merged {configs : List EngineConfig}
      (h : List.Forall₂ (fun e c => loadFile (FilePath.join path e.1) (some e.2) = .ok c) files
        configs) :
      ComesTo path files (.ok (EngineConfig.merge configs))
  | failed {before after : List (String × FileTree)} {e : String × FileTree}
      {configs : List EngineConfig} {error : LoadError} (hfiles : files = before ++ e :: after)
      (h : List.Forall₂ (fun e c => loadFile (FilePath.join path e.1) (some e.2) = .ok c) before
        configs)
      (he : loadFile (FilePath.join path e.1) (some e.2) = .error error) :
      ComesTo path files (.error error)

/-- That a file is read as its name says: as JSON if the name ends so, and as TOML if it does not. -/
structure ReadsByName (path name : String) : Prop where
  json : FilePath.EndsIn name "json" → ∀ content,
    loadFile (FilePath.join path name) (some (.text content)) =
      (Format.json.read EngineConfig.decode content).mapError
        (.malformed (FilePath.join path name) .json)
  toml : ¬FilePath.EndsIn name "json" → ∀ content,
    loadFile (FilePath.join path name) (some (.text content)) =
      (Format.toml.read EngineConfig.decode content).mapError
        (.malformed (FilePath.join path name) .toml)
  binary : loadFile (FilePath.join path name) (some .binary) =
    .error (.unreadable (FilePath.join path name) .notText)

variable {entries : List (String × FileTree)}

/-! ## The files that count -/

/-- What is looked for in an entry is whether it counts. -/
theorem counts_iff {e : String × FileTree} (h : FilePath.IsName e.1) :
    (!e.2.isDirectory && isConfigName e.1) = true ↔ Counts e := by
  rw [Bool.and_eq_true, Bool.not_eq_true', isConfigName, Bool.or_eq_true,
    FilePath.hasEnding_name "toml" h, FilePath.hasEnding_name "json" h]
  rfl

/-- The files are those entries that are looked for, in another order. -/
theorem configFiles_perm (h : Listing entries) :
    (configFiles entries).Perm (entries.filter fun e => !e.2.isDirectory && isConfigName e.1) :=
  Table.toList_ofList_perm (h.nodup.sublist (List.filter_sublist.map _))

/-- **The files of a directory** are those that count, and they stand in the order of the bytes of their
names. -/
theorem configFiles_spec (h : Listing entries) : ConfigFiles entries (configFiles entries) where
  mem_iff e := by
    rw [(configFiles_perm h).mem_iff, List.mem_filter]
    exact and_congr_right fun hmem => counts_iff (h.isName e hmem)
  ascending := (Table.ascending _).imp Text.compare_eq_lt_iff_bytes_lt.1

theorem ConfigFiles.nodup {files : List (String × FileTree)} (h : ConfigFiles entries files) :
    files.Nodup := by
  refine h.ascending.imp fun {a b} hlt heq => ?_
  rw [heq] at hlt
  exact List.lt_irrefl _ hlt

/-- There is one list only of the files that count, and other entries have no part in it. -/
theorem ConfigFiles.unique {files entries' files' : List (String × FileTree)}
    (h : ConfigFiles entries files) (h' : ConfigFiles entries' files')
    (hsame : ∀ e, Counts e → (e ∈ entries' ↔ e ∈ entries)) : files' = files := by
  have hperm : files'.Perm files := by
    refine (List.perm_ext_iff_of_nodup h'.nodup h.nodup).2 fun e => ?_
    rw [h'.mem_iff, h.mem_iff]
    exact and_congr_left fun hcounts => hsame e hcounts
  exact hperm.eq_of_pairwise (fun a b _ _ hab hba => absurd hba (List.lt_asymm hab)) h'.ascending
    h.ascending

/-! ## Loading them -/

/-- A directory comes to what its files come to. -/
theorem comesTo_configFiles (path : String) (entries : List (String × FileTree)) :
    ComesTo path (configFiles entries) (loadDirectory path (some (.directory entries))) := by
  rw [loadDirectory]
  rcases mapM_cases (fun e : String × FileTree => loadFile (FilePath.join path e.1) (some e.2))
    (configFiles entries) with ⟨configs, hconfigs, hall⟩ |
      ⟨before, e, after, configs, error, hfiles, hconfigs, he, hall⟩
  · rw [hall]
    exact .merged hconfigs
  · rw [hall]
    exact .failed hfiles hconfigs he

theorem loadFile_text (path content : String) :
    loadFile path (some (.text content)) =
      ((formatOf path).read EngineConfig.decode content).mapError
        (.malformed path (formatOf path)) := by
  rw [loadFile]
  cases (formatOf path).read EngineConfig.decode content <;> rfl

/-- **The format of an entry is that of its name**, wherever the directory is. -/
theorem readsByName (path : String) {name : String} (h : FilePath.IsName name) :
    ReadsByName path name where
  json hjson content := by
    rw [loadFile_text, formatOf, if_pos ((FilePath.hasEnding_join path "json" h).2 hjson)]
  toml hjson content := by
    rw [loadFile_text, formatOf, if_neg (mt (FilePath.hasEnding_join path "json" h).1 hjson)]
  binary := rfl

/-- A directory with one file that counts comes to what the file comes to. -/
theorem ComesTo.of_singleton {path : String} {e : String × FileTree}
    {result : Except LoadError EngineConfig} (h : ComesTo path [e] result) :
    result = loadFile (FilePath.join path e.1) (some e.2) := by
  cases h with
  | merged h =>
    obtain ⟨c, configs, hc, hnil, rfl⟩ := List.forall₂_cons_left_iff.1 h
    rw [List.forall₂_nil_left_iff.1 hnil, EngineConfig.merge_singleton]
    exact hc.symm
  | @failed before after e' configs error hfiles h he =>
    cases before with
    | nil =>
      rw [(List.cons.inj hfiles).1]
      exact he.symm
    | cons e'' before => exact absurd (List.cons.inj hfiles).2 (by simp)

/-- A directory without any configures nothing. -/
theorem ComesTo.of_nil {path : String} {result : Except LoadError EngineConfig}
    (h : ComesTo path [] result) : result = .ok {} := by
  cases h with
  | merged h =>
    rw [List.forall₂_nil_left_iff.1 h]
    rfl
  | failed hfiles _ _ => simp at hfiles

/-- **The configuration of a directory** depends on the files that count and on nothing else: they are
loaded in the order of the bytes of their names, each in the format of its name, and merged, or the first
that cannot be loaded is the error of the directory.  A single file stands for the directory, and no file
configures nothing.  Whatever else there is, and in whatever order it is listed, the configuration stays
the same. -/
theorem loadDirectory_spec (h : Listing entries) (path : String) :
    ∃ files, ConfigFiles entries files ∧
      ComesTo path files (loadDirectory path (some (.directory entries))) ∧
      (∀ e ∈ files, ReadsByName path e.1) ∧
      (∀ e, files = [e] → loadDirectory path (some (.directory entries)) =
        loadFile (FilePath.join path e.1) (some e.2)) ∧
      (files = [] → loadDirectory path (some (.directory entries)) = .ok {}) ∧
      ∀ entries', Listing entries' → (∀ e, Counts e → (e ∈ entries' ↔ e ∈ entries)) →
        loadDirectory path (some (.directory entries')) =
          loadDirectory path (some (.directory entries)) := by
  have hspec := configFiles_spec h
  have hcomes := comesTo_configFiles path entries
  refine ⟨configFiles entries, hspec, hcomes, ?_, ?_, ?_, ?_⟩
  · intro e he
    exact readsByName path (h.isName e ((hspec.mem_iff e).1 he).1)
  · intro e he
    rw [he] at hcomes
    exact hcomes.of_singleton
  · intro hnone
    rw [hnone] at hcomes
    exact hcomes.of_nil
  · intro entries' h' hsame
    rw [loadDirectory, loadDirectory, hspec.unique (configFiles_spec h') hsame]

/-- A directory with two configurations, which are at odds about a module, and with three entries that
look much like one. -/
def attic : List (String × FileTree) :=
  [("switch.TOML", .text "[hooks.modules]\nbids = true\n"), ("loud.toml", .directory []),
    ("notes.md", .binary), (".json", .text "\x7b"),
    ("B.json", .text "\x7b\"hooks\": \x7b\"modules\": \x7b\"bids\": false\x7d\x7d\x7d")]

theorem listing_attic : Listing attic where
  isName e he := by
    simp only [attic, List.mem_cons, List.not_mem_nil, or_false] at he
    rcases he with rfl | rfl | rfl | rfl | rfl <;>
      exact ⟨by decide, by decide, by decide, by decide⟩
  nodup := by decide

/-- A capital letter stands before all small ones, so the module is switched on in the end, in whichever
order the directory is listed. -/
theorem loadDirectory_attic :
    Listing attic ∧ ∃ files, ConfigFiles attic files ∧
      files.map Prod.fst = ["B.json", "switch.TOML"] ∧
      ComesTo "config" files (loadDirectory "config" (some (.directory attic))) ∧
      (loadDirectory "config" (some (.directory attic))).toOption =
        some { hooks.modules := Table.ofList [("bids", true)] } ∧
      loadDirectory "config" (some (.directory attic.reverse)) =
        loadDirectory "config" (some (.directory attic)) := by
  obtain ⟨files, hfiles, hcomes, -, -, -, hother⟩ := loadDirectory_spec listing_attic "config"
  have hreverse : Listing attic.reverse :=
    ⟨fun e he => listing_attic.isName e (List.mem_reverse.1 he), by decide⟩
  have heq : files = configFiles attic :=
    (configFiles_spec listing_attic).unique hfiles fun _ _ => Iff.rfl
  refine ⟨listing_attic, files, hfiles, ?_, hcomes, by decide +kernel, ?_⟩
  · rw [heq]
    decide +kernel
  · exact hother attic.reverse hreverse fun e _ => List.mem_reverse

end ConfigLoader

end AuctionHooks
