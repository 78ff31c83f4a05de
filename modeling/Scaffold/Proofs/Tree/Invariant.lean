import Mathlib
import Scaffold.Proofs.Path.Order
import Scaffold.Proofs.Text.Bytes
import Scaffold.Proofs.Tree
import Scaffold.Simulation

/-!
# Trees stay trees

Whatever calls are made, with whatever paths, nothing is in a tree without the directories above
it, and the files are in the order of their paths, no two of one path (`MemoryTree.IsTree`).  Each
call keeps this, be it that it fails (`TreeCall.isTree_after`), so it holds after all of them.  What
can then be asked of the tree follows (`World.stays_tree`): a file has everything above it, a write
shows in one file or nowhere, and the names in a directory are listed in the order of their bytes.

What is above something is said of all beginnings of its components and not of the last step only.
So no step has to look how far up a tree reaches already.
-/

namespace Scaffold

open Scaffold.Path (components parentComponents)

/-! ## Files in order -/

/-- One file comes before another by the paths. -/
def TreeFile.Before (f g : TreeFile) : Prop :=
  componentsLt (components f.path) (components g.path) = true

namespace MemoryTree

theorem forall_insertFile {P : List Component → Prop} (path text : String) (files : List TreeFile) :
    (∀ f ∈ insertFile path text files, P (components f.path))
      ↔ P (components path) ∧ ∀ f ∈ files, P (components f.path) := by
  have h := not_congr (exists_insertFile (P := fun cs => ¬ P cs) path text files)
  push Not at h
  exact h

/-- A file that is put in goes to its place in the order. -/
theorem pairwise_insertFile {files : List TreeFile} (h : files.Pairwise TreeFile.Before)
    (path text : String) : (insertFile path text files).Pairwise TreeFile.Before := by
  induction files with
  | nil => exact List.pairwise_singleton _ _
  | cons f files ih =>
      obtain ⟨hbefore, hrest⟩ := List.pairwise_cons.1 h
      unfold insertFile
      split
      next heq => exact List.pairwise_cons.2 ⟨hbefore, hrest⟩
      next hne =>
        split
        next hlt =>
          refine List.pairwise_cons.2 ⟨fun g hg => ?_, h⟩
          obtain rfl | hg := List.mem_cons.1 hg
          · exact hlt
          · exact componentsLt_trans hlt (hbefore g hg)
        next hlt =>
          have hf : componentsLt (components f.path) (components path) = true :=
            componentsLt_of_not hne hlt
          refine List.pairwise_cons.2 ⟨?_, ih hrest⟩
          exact (forall_insertFile (P := fun cs => componentsLt (components f.path) cs = true)
            path text files).2 ⟨hf, hbefore⟩

/-- Files at other places stay, with the spelling of their paths. -/
theorem mem_insertFile_of_ne {path text : String} {f : TreeFile}
    (h : components f.path ≠ components path) (files : List TreeFile) :
    f ∈ insertFile path text files ↔ f ∈ files := by
  have hf (spelled : String) (hs : components path = components spelled) : f ≠ ⟨spelled, text⟩ := by
    rintro rfl
    exact h hs.symm
  induction files with
  | nil => simp [insertFile, hf path rfl]
  | cons g files ih =>
      unfold insertFile
      split
      next heq =>
        have hg : f ≠ g := by
          rintro rfl
          exact h heq.symm
        simp [hf _ heq, hg]
      next =>
        split
        · simp [hf path rfl]
        · simp [ih]

/-! ## What is above is there -/

/-- What holds of a tree at any time. -/
structure IsTree (t : MemoryTree) : Prop where
  /-- A directory has those above it. -/
  dirs : ∀ dir, t.hasDir dir = true → ∀ c ≠ [], c <+: dir → t.hasDir c = true
  /-- A file has the directories above it. -/
  files : ∀ f ∈ t.files, ∀ c ≠ [], c <+: (components f.path).dropLast → t.hasDir c = true
  /-- The files are in order. -/
  ordered : t.files.Pairwise TreeFile.Before

namespace IsTree

variable {t : MemoryTree}

theorem empty : IsTree {} := ⟨by simp [hasDir], by simp, .nil⟩

theorem createDirs (h : IsTree t) (dir : List Component) : IsTree (t.createDirs dir) := by
  refine ⟨fun made hmade c hc hpre => ?_, fun f hf c hc hpre => ?_, ?_⟩
  · rw [hasDir_createDirs] at hmade ⊢
    obtain hold | ⟨-, hnew⟩ := hmade
    · exact .inl (h.dirs made hold c hc hpre)
    · exact .inr ⟨hc, hpre.trans hnew⟩
  · rw [files_createDirs] at hf
    rw [hasDir_createDirs]
    exact .inl (h.files f hf c hc hpre)
  · rw [files_createDirs]
    exact h.ordered

/-- A file may be put in where everything above it is there. -/
theorem put (h : IsTree t) {path : String}
    (hpath : ∀ c ≠ [], c <+: (components path).dropLast → t.hasDir c = true) (text : String)
    (writes : ℕ) : IsTree { t with files := insertFile path text t.files, writes := writes } where
  dirs := h.dirs
  files := (forall_insertFile (P := fun cs => ∀ c ≠ [], c <+: cs.dropLast → t.hasDir c = true)
    path text t.files).2 ⟨hpath, h.files⟩
  ordered := pairwise_insertFile h.ordered path text

theorem seed (h : IsTree t) (path text : String) : IsTree (t.seed path text) := by
  unfold MemoryTree.seed
  split
  next dir hdir =>
    refine (h.createDirs dir).put (Path.forall_above_iff.2 fun dir' hdir' c hc hpre => ?_) text _
    obtain rfl : dir = dir' := Option.some.inj (hdir.symm.trans hdir')
    exact (hasDir_createDirs t dir c).2 (.inr ⟨hc, hpre⟩)
  next hnone =>
    refine h.put (Path.forall_above_iff.2 fun dir hdir => ?_) text _
    cases hnone.symm.trans hdir

/-- Where a file can be written, everything above it is there. -/
theorem above_of_canWrite (h : IsTree t) {path : String} (hcan : t.canWrite path = true) :
    ∀ c ≠ [], c <+: (components path).dropLast → t.hasDir c = true := by
  refine Path.forall_above_iff.2 fun dir hdir c hc hpre => ?_
  rw [canWrite, hdir] at hcan
  cases dir with
  | nil => exact absurd (List.prefix_nil.1 hpre) hc
  | cons d ds => exact h.dirs (d :: ds) hcan c hc hpre

/-! ### What can be asked of a tree -/

theorem hasDir_parent (h : IsTree t) {dir above : List Component} (hdir : t.hasDir dir = true)
    (habove : parentComponents dir = some above) (hne : above ≠ []) : t.hasDir above = true := by
  refine h.dirs dir hdir above hne ?_
  rw [Path.dropLast_of_parentComponents habove]
  exact List.dropLast_prefix dir

theorem hasDir_parent_file (h : IsTree t) {f : TreeFile} (hf : f ∈ t.files) {above : String}
    (habove : Path.parent f.path = some above) (hne : above ≠ "") :
    t.hasDir (components above) = true := by
  refine h.files f hf _ (mt Path.components_eq_nil_iff.1 hne) ?_
  rw [Path.components_parent habove]

theorem hasPath_of_above (h : IsTree t) {f : TreeFile} (hf : f ∈ t.files) {dir : String}
    (hne : dir ≠ "") (hpre : components dir <+: components f.path)
    (hproper : components dir ≠ components f.path) : t.hasPath dir = true := by
  have hc : components dir ≠ [] := mt Path.components_eq_nil_iff.1 hne
  have habove : components dir <+: (components f.path).dropLast := by
    have hfile : components f.path ≠ [] := fun hnil => hc (List.prefix_nil.1 (hnil ▸ hpre))
    rw [← List.dropLast_concat_getLast hfile] at hpre hproper
    exact (List.prefix_concat_iff.1 hpre).resolve_left hproper
  rw [hasPath, h.files f hf _ hc habove, Bool.or_true]

/-- The names in a directory are in the order of their bytes, and no two are the same. -/
theorem pairwise_listFiles (h : IsTree t) (dir : String) :
    (t.listFiles dir).Pairwise fun a b => Text.bytes a < Text.bytes b := by
  have hin : ∀ f ∈ t.files.filter fun f => parentComponents (components f.path)
      = some (components dir), parentComponents (components f.path) = some (components dir) :=
    fun f hf => by simpa using (List.mem_filter.1 hf).2
  rw [listFiles, List.pairwise_filterMap]
  refine (h.ordered.filter _).imp_of_mem fun {f g} hf hg hbefore a ha b hb => ?_
  have hlt : a < b := by
    rwa [TreeFile.Before, Path.components_of_fileName (hin f hf) ha,
      Path.components_of_fileName (hin g hg) hb, componentsLt_concat_name] at hbefore
  exact Text.bytes_lt_of_lt hlt

end IsTree

end MemoryTree

/-! ## Calls -/

namespace World

/-- The files of a world in which no call is made to fail. -/
def files : FilePort (StateM World) := filePort {}

/-- Run a computation in a world. -/
def run {α : Type} (x : InWorld α) (w : World) : Except Error α × World := StateT.run x.run w

theorem run_get_bind {α : Type} (f : World → InWorld α) (w : World) :
    run (get >>= f) w = run (f w) w := rfl

theorem run_read (path : String) (w : World) : run (files.read path) w = (.ok (w.tree.read? path), w) :=
  rfl

theorem run_listFiles (dir : String) (w : World) :
    run (files.listFiles dir) w = (.ok (w.tree.listFiles dir), w) := rfl

theorem run_pathExists (path : String) (w : World) :
    (files.pathExists path).run w = (w.tree.hasPath path, w) := rfl

/-- A write that cannot be made fails and changes nothing; any other puts its file in. -/
theorem run_write_cases (path content : String) (w : World) :
    (w.tree.canWrite path = false
      ∧ run (files.write path content) w
        = (.error (.run (.filesystem path "Parent directory does not exist")), w))
    ∨ (w.tree.canWrite path = true
      ∧ ∃ w', run (files.write path content) w = (.ok (), w')
        ∧ w'.tree = { w.tree with
            files := MemoryTree.insertFile path content w.tree.files
            writes := w.tree.writes + 1 }) := by
  simp only [files, filePort, failOn, hits, List.any_nil, Bool.false_eq_true, if_false, pure_bind,
    run_get_bind, MemoryTree.write]
  cases w.tree.canWrite path with
  | false => exact .inl ⟨rfl, rfl⟩
  | true => exact .inr ⟨rfl, _, rfl, rfl⟩

end World

/-- A call that can change a tree. -/
inductive TreeCall where
  /-- Put a file in with the directories above it. -/
  | seed (path content : String)
  /-- Make a directory and those above it. -/
  | createDirs (path : String)
  /-- Write a file. -/
  | write (path content : String)

namespace TreeCall

/-- Make a call. -/
def make : TreeCall → InWorld Unit
  | seed path content => World.modifyTree (·.seed path content)
  | createDirs path => World.files.createDirs path
  | write path content => World.files.write path content

/-- The world after a call, which may have failed. -/
def after (w : World) (c : TreeCall) : World := (World.run c.make w).2

/-- The world after some calls, from the one in which there is nothing. -/
def afterAll (calls : List TreeCall) : World := calls.foldl after {}

theorem isTree_after {w : World} (h : w.tree.IsTree) (c : TreeCall) : (after w c).tree.IsTree := by
  unfold after
  cases c with
  | seed path content => exact h.seed path content
  | createDirs path => exact h.createDirs (components path)
  | write path content =>
      obtain ⟨-, hrun⟩ | ⟨hcan, w', hrun, htree⟩ := World.run_write_cases path content w
      · rw [make, hrun]
        exact h
      · rw [make, hrun, htree]
        exact h.put (h.above_of_canWrite hcan) content _

theorem isTree_afterAll (calls : List TreeCall) : (afterAll calls).tree.IsTree := by
  have hrun (w : World) (h : w.tree.IsTree) : (calls.foldl after w).tree.IsTree := by
    induction calls generalizing w with
    | nil => exact h
    | cons c calls ih => exact ih (after w c) (isTree_after h c)
  exact hrun {} .empty

end TreeCall

namespace World

/-- **A tree stays a tree.**  After any calls, with any paths and with those that fail: a directory
has the one that holds it, unless that is the empty path, and so has a file; everything above a file
exists.  A write fails for want of that directory only, and then changes nothing; else it succeeds,
what was written is read back, and the files at all other places are those from before.  The names
listed for a directory are in the strict order of their bytes, and they are those of the files that
it holds and that have a name. -/
theorem stays_tree (calls : List TreeCall) :
    let w := TreeCall.afterAll calls
    (∀ dir, w.tree.hasDir dir = true → ∀ above, parentComponents dir = some above → above ≠ [] →
        w.tree.hasDir above = true)
      ∧ (∀ f ∈ w.tree.files, ∀ above, Path.parent f.path = some above → above ≠ "" →
        w.tree.hasDir (components above) = true)
      ∧ (∀ f ∈ w.tree.files, ∀ dir, dir ≠ "" → components dir <+: components f.path →
        components dir ≠ components f.path → (files.pathExists dir).run w = (true, w))
      ∧ (∀ path content,
        (∃ e, run (files.write path content) w = (.error e, w)
          ∧ ∃ above, Path.parent path = some above ∧ above ≠ ""
            ∧ w.tree.hasDir (components above) = false)
        ∨ ∃ w', run (files.write path content) w = (.ok (), w')
          ∧ (∀ above, Path.parent path = some above → above ≠ "" →
            w.tree.hasDir (components above) = true)
          ∧ run (files.read path) w' = (.ok (some content), w')
          ∧ ∀ f : TreeFile, components f.path ≠ components path →
            (f ∈ w'.tree.files ↔ f ∈ w.tree.files))
      ∧ ∀ dir, ∃ names, run (files.listFiles dir) w = (.ok names, w)
        ∧ names.Pairwise (fun a b => Text.bytes a < Text.bytes b)
        ∧ ∀ name, name ∈ names ↔ ∃ f ∈ w.tree.files,
          (Path.parent f.path).map components = some (components dir)
            ∧ Path.fileName f.path = some name := by
  intro w
  have h : w.tree.IsTree := TreeCall.isTree_afterAll calls
  refine ⟨fun dir hdir above => h.hasDir_parent hdir, fun f hf above => h.hasDir_parent_file hf,
    fun f hf dir hne hpre hproper => ?_, fun path content => ?_, fun dir =>
    ⟨w.tree.listFiles dir, run_listFiles dir w, h.pairwise_listFiles dir, fun name => ?_⟩⟩
  · rw [run_pathExists, h.hasPath_of_above hf hne hpre hproper]
  · have hiff := w.tree.canWrite_iff path
    obtain ⟨hcan, hrun⟩ | ⟨hcan, w', hrun, htree⟩ := run_write_cases path content w
    · have hnot := mt hiff.2 (by simp [hcan])
      push Not at hnot
      exact .inl ⟨_, hrun, by simpa using hnot⟩
    · refine .inr ⟨w', hrun, hiff.1 hcan, ?_, fun f hf => ?_⟩
      · rw [run_read, MemoryTree.read?, htree, MemoryTree.find?_insertFile_self]
      · rw [htree]
        exact MemoryTree.mem_insertFile_of_ne hf w.tree.files
  · simp only [MemoryTree.mem_listFiles, Path.map_components_parent, Path.fileName_eq_some_iff]

/-- A file is written too early and again in time, and others under paths spelled in other ways. -/
def sourceCalls : List TreeCall :=
  [.write "/w/src/b.cs" "early", .createDirs "/w//src/.", .write "/w/src/b.cs" "b",
    .seed "/w/./src/é.cs" "e", .write "/w/src//Z.cs" "z", .seed "/w/src/../c.cs" "c"]

/-- Two of the three writes succeed.  The directory above the last file exists, though nobody made
it, a file in another directory is refused, and the small letters are listed after the capital. -/
theorem stays_tree_sources :
    let w := TreeCall.afterAll sourceCalls
    w.tree.writes = 2
      ∧ (files.pathExists "/w/src/..").run w = (true, w)
      ∧ (∃ e, run (files.write "/v/a.cs" "a") w = (.error e, w))
      ∧ run (files.listFiles "/w/src/") w = (.ok ["Z.cs", "b.cs", "é.cs"], w)
      ∧ ["Z.cs", "b.cs", "é.cs"].Pairwise fun a b => Text.bytes a < Text.bytes b := by
  intro w
  obtain ⟨-, -, habove, hwrite, hlist⟩ := stays_tree sourceCalls
  have hfile : ⟨"/w/src/../c.cs", "c"⟩ ∈ w.tree.files := by decide +kernel
  have hmissing : w.tree.hasDir (components "/v") = false := by decide +kernel
  have hnames : w.tree.listFiles "/w/src/" = ["Z.cs", "b.cs", "é.cs"] := by decide +kernel
  obtain ⟨names, hrun, hordered, -⟩ := hlist "/w/src/"
  obtain rfl : names = ["Z.cs", "b.cs", "é.cs"] := by
    rw [run_listFiles, hnames, Prod.mk.injEq, Except.ok.injEq] at hrun
    exact hrun.1.symm
  refine ⟨by decide +kernel, habove _ hfile "/w/src/.." (by decide) (by decide) (by decide), ?_, hrun,
    hordered⟩
  obtain ⟨e, hfails, -⟩ | ⟨-, -, hheld, -⟩ := hwrite "/v/a.cs" "a"
  · exact ⟨e, hfails⟩
  · rw [hheld "/v" (by decide) (by decide)] at hmissing
    cases hmissing

end World

end Scaffold
