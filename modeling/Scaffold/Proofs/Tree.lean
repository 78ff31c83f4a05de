import Mathlib
import Scaffold.MemoryTree
import Scaffold.Proofs.Path

/-!
# The files of a tree

A tree is looked at through the content of its files by components (`MemoryTree.content`).
Writing changes the content at one place (`write_of_canWrite`); making directories changes no
content, and after it a file can be written below them (`canWrite_createDirs`).  The names in a
directory are those of the files that lie in it (`mem_listFiles`).
-/

namespace Scaffold

open Scaffold.Path (components parentComponents)

/-- What is in the files, by components. -/
abbrev Files := List Component → Option String

namespace MemoryTree

/-- The content of the file at some components. -/
def content (t : MemoryTree) : Files := fun c =>
  (t.files.find? fun f => components f.path = c).map TreeFile.content

theorem read?_eq_content (t : MemoryTree) (path : String) :
    t.read? path = t.content (components path) := rfl

@[simp] theorem content_empty : ({} : MemoryTree).content = fun _ => none := rfl

/-! ## Writing -/

theorem find?_insertFile_self (path text : String) (files : List TreeFile) :
    ((insertFile path text files).find? fun f => components f.path = components path).map
      TreeFile.content = some text := by
  induction files with
  | nil => simp [insertFile]
  | cons f files ih =>
      unfold insertFile
      split
      next heq => simp [heq]
      next hne =>
        split
        · simp
        · rw [List.find?_cons_of_neg (by simpa using Ne.symm hne)]
          exact ih

theorem find?_insertFile_of_ne (path text : String) (files : List TreeFile) {c : List Component}
    (hc : c ≠ components path) :
    ((insertFile path text files).find? fun f => components f.path = c).map TreeFile.content
      = (files.find? fun f => components f.path = c).map TreeFile.content := by
  induction files with
  | nil => simp [insertFile, Ne.symm hc]
  | cons f files ih =>
      unfold insertFile
      split
      next heq =>
        have hf : components f.path ≠ c := by
          rw [← heq]
          exact Ne.symm hc
        simp [hf]
      next =>
        split
        · rw [List.find?_cons_of_neg (by simpa using Ne.symm hc)]
        · by_cases hf : components f.path = c
          · simp [hf]
          · rw [List.find?_cons_of_neg (by simpa using hf),
              List.find?_cons_of_neg (by simpa using hf)]
            exact ih

/-- A file that can be written is, and nothing else changes. -/
theorem write_of_canWrite {t : MemoryTree} {path : String} (h : t.canWrite path = true)
    (text : String) : ∃ t', t.write path text = .ok t'
      ∧ t'.content = Function.update t.content (components path) (some text)
      ∧ t'.dirs = t.dirs := by
  refine ⟨{ t with files := insertFile path text t.files, writes := t.writes + 1 }, ?_, ?_, rfl⟩
  · rw [write, if_pos h]
  · funext c
    by_cases hc : c = components path
    · subst hc
      rw [Function.update_self]
      exact find?_insertFile_self path text t.files
    · rw [Function.update_of_ne hc]
      exact find?_insertFile_of_ne path text t.files hc

/-! ## Directories -/

theorem mem_prefixes {c dir : List Component} : c ∈ prefixes dir ↔ c ≠ [] ∧ c <+: dir := by
  simp only [prefixes, List.mem_map, List.mem_range]
  constructor
  · rintro ⟨i, hi, rfl⟩
    refine ⟨?_, List.take_prefix _ _⟩
    intro hnil
    rcases List.take_eq_nil_iff.1 hnil with h | h
    · omega
    · simp [h] at hi
  · rintro ⟨hne, hpre⟩
    have hpos := List.length_pos_iff.2 hne
    have hle := hpre.length_le
    refine ⟨c.length - 1, by omega, ?_⟩
    rw [Nat.sub_add_cancel hpos]
    exact (List.prefix_iff_eq_take.1 hpre).symm

theorem content_addDir (t : MemoryTree) (dir : List Component) :
    (t.addDir dir).content = t.content := by
  unfold addDir
  split <;> rfl

theorem hasDir_addDir (t : MemoryTree) (dir c : List Component) :
    (t.addDir dir).hasDir c = true ↔ t.hasDir c = true ∨ c = dir := by
  unfold addDir
  split
  next h =>
    constructor
    · exact .inl
    · rintro (h' | rfl)
      · exact h'
      · exact h
  · simp [hasDir]

@[simp] theorem content_createDirs (t : MemoryTree) (dir : List Component) :
    (t.createDirs dir).content = t.content := by
  unfold createDirs
  induction prefixes dir generalizing t with
  | nil => rfl
  | cons p ps ih => rw [List.foldl_cons, ih, content_addDir]

theorem hasDir_createDirs (t : MemoryTree) (dir c : List Component) :
    (t.createDirs dir).hasDir c = true ↔ t.hasDir c = true ∨ (c ≠ [] ∧ c <+: dir) := by
  rw [← mem_prefixes]
  unfold createDirs
  induction prefixes dir generalizing t with
  | nil => simp
  | cons p ps ih =>
      rw [List.foldl_cons, ih, hasDir_addDir, List.mem_cons]
      tauto

/-- A file can be written where the directory that holds it is, unless it needs none. -/
theorem canWrite_iff (t : MemoryTree) (path : String) : t.canWrite path = true ↔
    ∀ above, Path.parent path = some above → above ≠ "" → t.hasDir (components above) = true := by
  rw [canWrite, ← Path.map_components_parent]
  cases Path.parent path with
  | none => simp
  | some above =>
      by_cases hempty : above = ""
      · subst hempty
        have hnil : components "" = [] := by decide
        simp [hnil]
      · have hne := mt Path.components_eq_nil_iff.1 hempty
        cases hcs : components above with
        | nil => exact absurd hcs hne
        | cons c cs => simp [hcs, hempty]

/-- After its directory is made a file can be written. -/
theorem canWrite_createDirs (t : MemoryTree) {path dir : String} (h : Path.parent path = some dir) :
    (t.createDirs (components dir)).canWrite path = true := by
  rw [canWrite_iff]
  intro above habove hne
  obtain rfl : dir = above := Option.some.inj (h.symm.trans habove)
  rw [hasDir_createDirs]
  exact .inr ⟨mt Path.components_eq_nil_iff.1 hne, List.prefix_rfl⟩

/-- A path without a directory above it can be written. -/
theorem canWrite_of_parent_none (t : MemoryTree) {path : String} (h : Path.parent path = none) :
    t.canWrite path = true := by
  rw [canWrite_iff, h]
  nofun

/-! ## The names in a directory -/

theorem files_createDirs (t : MemoryTree) (dir : List Component) : (t.createDirs dir).files = t.files := by
  unfold createDirs
  induction prefixes dir generalizing t with
  | nil => rfl
  | cons p ps ih =>
      rw [List.foldl_cons, ih, addDir]
      split <;> rfl

theorem listFiles_createDirs (t : MemoryTree) (made : List Component) (dir : String) :
    (t.createDirs made).listFiles dir = t.listFiles dir := by
  rw [listFiles, files_createDirs, listFiles]

/-- A file that is put in elsewhere is not in the list. -/
theorem filter_insertFile {path : String} {dir : List Component}
    (h : parentComponents (components path) ≠ some dir) (text : String) (files : List TreeFile) :
    ((insertFile path text files).filter fun f => parentComponents (components f.path) = some dir).map
        TreeFile.path
      = (files.filter fun f => parentComponents (components f.path) = some dir).map TreeFile.path := by
  induction files with
  | nil => simp [insertFile, h]
  | cons f files ih =>
      unfold insertFile
      split
      next heq =>
        -- the file keeps the path it was first written under
        simp only [List.filter_cons]
        split <;> rfl
      next =>
        split
        · simp [List.filter_cons, h]
        · simp only [List.filter_cons]
          split
          · simp only [List.map_cons, ih]
          · exact ih

theorem listFiles_eq (t : MemoryTree) (dir : String) :
    t.listFiles dir = ((t.files.filter fun f => parentComponents (components f.path)
      = some (components dir)).map TreeFile.path).filterMap Path.fileName := by
  rw [listFiles, List.filterMap_map]
  rfl

theorem exists_insertFile {P : List Component → Prop} (path text : String) (files : List TreeFile) :
    (∃ f ∈ insertFile path text files, P (components f.path))
      ↔ P (components path) ∨ ∃ f ∈ files, P (components f.path) := by
  induction files with
  | nil => simp [insertFile]
  | cons f files ih =>
      unfold insertFile
      split
      next heq => simp [heq]
      next =>
        split
        · simp
        · simp only [List.mem_cons, exists_eq_or_imp, ih]
          exact or_left_comm

theorem mem_listFiles {t : MemoryTree} {dir file : String} : file ∈ t.listFiles dir ↔ ∃ f ∈ t.files,
    parentComponents (components f.path) = some (components dir)
      ∧ (components f.path).getLast? = some (.name file) := by
  simp only [listFiles, List.mem_filterMap, List.mem_filter, decide_eq_true_eq,
    Path.fileName_eq_some_iff, and_assoc]

/-! ### A file that is put into a directory -/

section

variable {path dir name : String}

theorem seed_eq (hdir : components path = components dir ++ [.name name]) (t : MemoryTree)
    (text : String) :
    t.seed path text = { t.createDirs (components dir) with
      files := insertFile path text (t.createDirs (components dir)).files } := by
  have hparent : parentComponents (components path) = some (components dir) := by
    rw [hdir, Path.parentComponents_concat_name]
  rw [seed, hparent]

/-- It is among the names in the directory afterwards, and no other is new. -/
theorem mem_listFiles_seed (hdir : components path = components dir ++ [.name name]) (t : MemoryTree)
    (text file : String) :
    file ∈ (t.seed path text).listFiles dir ↔ file ∈ t.listFiles dir ∨ file = name := by
  rw [seed_eq hdir, mem_listFiles, mem_listFiles]
  simp only [files_createDirs]
  rw [exists_insertFile (P := fun cs => parentComponents cs = some (components dir)
    ∧ cs.getLast? = some (.name file)), or_comm, hdir,
    Path.parentComponents_concat_name, List.getLast?_concat]
  simp [eq_comm]

theorem content_seed (hdir : components path = components dir ++ [.name name]) (t : MemoryTree)
    (text : String) {c : List Component} (hc : c ≠ components path) :
    (t.seed path text).content c = t.content c := by
  rw [seed_eq hdir, ← t.content_createDirs (components dir)]
  exact find?_insertFile_of_ne path text _ hc

theorem hasDir_seed (hdir : components path = components dir ++ [.name name]) (t : MemoryTree)
    (text : String) {c : List Component} (hc : ¬ c <+: components dir) :
    (t.seed path text).hasDir c = t.hasDir c := by
  rw [seed_eq hdir]
  have hdirs := t.hasDir_createDirs (components dir) c
  rw [or_iff_left fun h => hc h.2] at hdirs
  exact Bool.eq_iff_iff.2 hdirs

end

/-- Writing a file leaves the names in other directories. -/
theorem listFiles_write {t t' : MemoryTree} {path text : String} (hwrite : t.write path text = .ok t')
    {dir : String} (hdir : parentComponents (components path) ≠ some (components dir)) :
    t'.listFiles dir = t.listFiles dir := by
  unfold write at hwrite
  split at hwrite
  · cases hwrite
    rw [listFiles_eq, listFiles_eq, filter_insertFile hdir]
  · cases hwrite

end MemoryTree

end Scaffold
