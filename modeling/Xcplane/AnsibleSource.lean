import Mathlib.Data.List.Infix
import Xcplane.Lib.Interrupted
import Xcplane.Lib.Once
import Xcplane.RunFiles

/-!
The Ansible files that the daemon carries and extracts when it starts, unless the directory
for them is there. An extraction may stop at any point, and is not taken up again.
-/

namespace Xcplane.AnsibleSource

open Xcplane.Types
open Xcplane.Lib
open Xcplane.Deploy
open Xcplane.RunFiles

section Files

/-- A path below the directory of the Ansible files, which is the empty one. -/
abbrev Path := List String

inductive DirEntry
  | dir (path : Path) (entries : List DirEntry)
  | file (path : Path) (contents : List UInt8)

inductive Node
  | dir
  | file (contents : List UInt8)
  deriving DecidableEq, Repr

abbrev Tree := Path → Option Node

def Tree.empty : Tree :=
  fun _ => none

inductive Call
  | createDirAll (path : Path)
  | write (path : Path) (contents : List UInt8)
  deriving DecidableEq, Repr

mutual

def DirEntry.calls : DirEntry → List Call
  | .dir path entries => .createDirAll path :: extractAnsible entries
  | .file path contents => [.createDirAll path.dropLast, .write path contents]

/-- The calls of the extraction, in their order. -/
def extractAnsible : List DirEntry → List Call
  | [] => []
  | entry :: rest => entry.calls ++ extractAnsible rest

end

/-- What a call does to the disk at a time. -/
inductive Step
  | mkdir (path : Path)
  | create (path : Path)
  | append (path : Path) (byte : UInt8)
  deriving DecidableEq, Repr

def Call.steps : Call → List Step
  | .createDirAll path => path.inits.map .mkdir
  | .write path contents => .create path :: contents.map (.append path)

def Step.path : Step → Path
  | .mkdir path => path
  | .create path => path
  | .append path _ => path

/-- What is at the path of a step after it. A directory that is there is left alone, and a
file that is there is emptied. -/
def Step.node : Step → Option Node → Option Node
  | .mkdir _, none => some .dir
  | .create _, _ => some (.file [])
  | .append _ byte, some (.file contents) => some (.file (contents ++ [byte]))
  | _, node => node

def Tree.apply (t : Tree) (s : Step) : Tree :=
  Function.update t s.path (s.node (t s.path))

def steps (source : List DirEntry) : List Step :=
  (extractAnsible source).flatMap Call.steps

end Files

section Starts

def taskPath (a : AnsibleAction) : Path :=
  ["tasks", taskname a]

/-- The check of the task files, as far as it is about this directory. -/
def Tree.validate (t : Tree) : Except BoxError Unit :=
  RunFiles.validate (fun filename => (t ["tasks", filename]).isSome)
    fun filename => (t ["tasks", filename]).isSome

def Tree.begun (t : Tree) : Bool :=
  (t []).isSome

/-- A start of the daemon up to the check of the files. The extraction may be stopped after
some steps, by an error or with the process. -/
def start (source : List DirEntry) (t : Tree) (stopped : Option (Nat × BoxError)) :
    Tree × Except BoxError Unit :=
  if t.begun then (t, t.validate)
  else
    match stopped with
    | some (n, e) => (run Tree.apply t ((steps source).take n), .error e)
    | none =>
        let t := run Tree.apply t (steps source)
        (t, t.validate)

/-- What the starts of the daemon, one after the other, leave on the disk. -/
def treeAfter (source : List DirEntry) (history : List (Option (Nat × BoxError))) : Tree :=
  run (fun t stopped => (start source t stopped).1) Tree.empty history

end Starts

section Statement

def Call.file : Call → Option (Path × List UInt8)
  | .createDirAll _ => none
  | .write path contents => some (path, contents)

/-- The files in the order in which they are extracted. -/
def files (source : List DirEntry) : List (Path × List UInt8) :=
  (extractAnsible source).filterMap Call.file

def Call.dir : Call → Option Path
  | .createDirAll path => some path
  | .write _ _ => none

/-- No file is at the path of another one or of a directory, and there is one for each
action. -/
structure WellFormed (source : List DirEntry) : Prop where
  nodup : ((files source).map Prod.fst).Nodup
  apart : ∀ path ∈ (extractAnsible source).filterMap Call.dir, ∀ f ∈ files source,
    ¬ f.1 <+: path
  tasks : ∀ a, ∃ f ∈ files source, f.1 = taskPath a

/-- A start that ends well finds the file whole, whatever the starts before it came to. -/
def AlwaysWhole (source : List DirEntry) (f : Path × List UInt8) : Prop :=
  ∀ history stopped, (start source (treeAfter source history) stopped).2 = .ok () →
    (start source (treeAfter source history) stopped).1 f.1 = some (.file f.2)

/-- The check looks for a file that is extracted later, or for this one, and any part of it
is the whole of it. -/
def Checked (source : List DirEntry) (f : Path × List UInt8) : Prop :=
  ∃ a, (∃ before d after, files source = before ++ (taskPath a, d) :: after ∧ f ∈ before) ∨
    (f.1 = taskPath a ∧ f.2 = [])

end Statement

section Nodes

variable {t : Tree} {p : Path} {c : List UInt8} {done l : List Step}

theorem apply_other {s : Step} (h : s.path ≠ p) : t.apply s p = t p :=
  Function.update_of_ne h.symm _ _

theorem apply_self (s : Step) : t.apply s s.path = s.node (t s.path) :=
  Function.update_self _ _ _

theorem run_other (h : ∀ s ∈ l, s.path ≠ p) : run Tree.apply t l p = t p := by
  induction l generalizing t with
  | nil => rfl
  | cons s l ih =>
      obtain ⟨hs, hl⟩ := List.forall_mem_cons.mp h
      show run Tree.apply (t.apply s) l p = t p
      rw [ih hl, apply_other hs]

theorem run_append (l' : List Step) :
    run Tree.apply t (l ++ l') = run Tree.apply (run Tree.apply t l) l' :=
  List.foldl_append

theorem run_appends {b : List UInt8} (h : t p = some (.file b)) :
    run Tree.apply t (c.map (.append p)) p = some (.file (b ++ c)) := by
  induction c generalizing t b with
  | nil => simpa [run] using h
  | cons x c ih =>
      have hx : t.apply (.append p x) p = some (.file (b ++ [x])) := by
        have happly := apply_self (t := t) (.append p x)
        rwa [Step.path, h] at happly
      show run Tree.apply (t.apply (.append p x)) (c.map (.append p)) p = _
      rw [ih hx, List.append_assoc, List.singleton_append]

theorem run_write : run Tree.apply t (Call.write p c).steps p = some (.file c) := by
  have hcreate : t.apply (.create p) p = some (.file []) := apply_self (.create p)
  show run Tree.apply (t.apply (.create p)) (c.map (.append p)) p = _
  rw [run_appends hcreate, List.nil_append]

theorem isSome_node (s : Step) {node : Option Node} (h : node.isSome) : (s.node node).isSome := by
  obtain ⟨n, rfl⟩ := Option.isSome_iff_exists.mp h
  cases s with
  | mkdir path => rfl
  | create path => rfl
  | append path byte =>
      cases n with
      | dir => rfl
      | file contents => rfl

theorem isSome_run (h : (t p).isSome) : (run Tree.apply t l p).isSome := by
  induction l generalizing t with
  | nil => exact h
  | cons s l ih =>
      apply ih
      rcases eq_or_ne s.path p with rfl | hne
      · rw [apply_self]
        exact isSome_node s h
      · rwa [apply_other hne]

end Nodes

section Extraction

variable {source : List DirEntry} {p : Path} {c : List UInt8} {done : List Step}
  {before after : List Call}

theorem path_ne_of_mem {l : List Call} (hdirs : ∀ path ∈ l.filterMap Call.dir, ¬ p <+: path)
    (hfiles : p ∉ (l.filterMap Call.file).map Prod.fst) :
    ∀ s ∈ l.flatMap Call.steps, s.path ≠ p := by
  intro s hs
  obtain ⟨call, hcall, hs⟩ := List.mem_flatMap.mp hs
  cases call with
  | createDirAll path =>
      obtain ⟨q, hq, rfl⟩ := List.mem_map.mp hs
      rintro rfl
      have hmem : path ∈ l.filterMap Call.dir := List.mem_filterMap.mpr ⟨_, hcall, rfl⟩
      exact hdirs path hmem ((List.mem_inits q path).mp hq)
  | write path contents =>
      have hne : path ≠ p := by
        rintro rfl
        exact hfiles (List.mem_map.mpr ⟨_, List.mem_filterMap.mpr ⟨_, hcall, rfl⟩, rfl⟩)
      simp only [Call.steps, List.mem_cons, List.mem_map] at hs
      rcases hs with rfl | ⟨byte, _, rfl⟩
      · exact hne
      · exact hne

/-- The steps of the other calls are about other paths. -/
theorem WellFormed.others (h : WellFormed source)
    (hsplit : extractAnsible source = before ++ .write p c :: after) :
    (∀ s ∈ before.flatMap Call.steps, s.path ≠ p) ∧
      ∀ s ∈ after.flatMap Call.steps, s.path ≠ p := by
  have hfiles : files source = before.filterMap Call.file ++ (p, c) ::
      after.filterMap Call.file := by
    rw [files, hsplit, List.filterMap_append]
    rfl
  have hmem : (p, c) ∈ files source := by
    rw [hfiles]
    exact List.mem_append_right _ List.mem_cons_self
  have hnodup := h.nodup
  rw [hfiles, List.map_append, List.map_cons, List.nodup_append] at hnodup
  obtain ⟨_, hafter, hcross⟩ := hnodup
  constructor
  · apply path_ne_of_mem
    · intro path hpath
      apply h.apart path _ _ hmem
      rw [hsplit, List.filterMap_append]
      exact List.mem_append_left _ hpath
    · intro hp
      exact hcross p hp p List.mem_cons_self rfl
  · apply path_ne_of_mem
    · intro path hpath
      apply h.apart path _ _ hmem
      rw [hsplit, List.filterMap_append]
      exact List.mem_append_right _ hpath
    · exact (List.nodup_cons.mp hafter).1

/-- What is at the path of a file wherever the extraction stops. -/
theorem node_of_done (h : WellFormed source)
    (hsplit : extractAnsible source = before ++ .write p c :: after)
    (hdone : done <+: steps source) :
    (done <+: before.flatMap Call.steps ∧ run Tree.apply Tree.empty done p = none) ∨
      (before.flatMap Call.steps ++ [.create p] <+: done ∧
        ∃ b, b <+: c ∧ run Tree.apply Tree.empty done p = some (.file b) ∧
          (before.flatMap Call.steps ++ (Call.write p c).steps <+: done → b = c)) := by
  obtain ⟨hbefore, hafter⟩ := h.others hsplit
  have hsteps : steps source = before.flatMap Call.steps ++ Step.create p ::
      (c.map (.append p) ++ after.flatMap Call.steps) := by
    rw [steps, hsplit, List.flatMap_append, List.flatMap_cons]
    rfl
  rw [hsteps] at hdone
  rcases prefix_append_cons hdone with hdone | ⟨rest, hrest, rfl⟩
  · refine .inl ⟨hdone, ?_⟩
    exact run_other fun s hs => hbefore s (hdone.subset hs)
  · refine .inr ⟨?_, ?_⟩
    · have happend : before.flatMap Call.steps ++ Step.create p :: rest =
          (before.flatMap Call.steps ++ [.create p]) ++ rest := List.append_cons _ _ _
      rw [happend]
      exact List.prefix_append _ rest
    · rw [run_append]
      have hcreate : ∀ t : Tree, t.apply (.create p) p = some (.file []) :=
        fun t => apply_self (.create p)
      rcases prefix_append_iff.mp hrest with hrest | ⟨rest', hrest', rfl⟩
      · obtain ⟨n, rfl⟩ : ∃ n, rest = (c.take n).map (.append p) := by
          rw [List.prefix_iff_eq_take] at hrest
          exact ⟨rest.length, by rw [List.map_take, ← hrest]⟩
        refine ⟨c.take n, List.take_prefix n c, run_write, ?_⟩
        intro hwhole
        have hlength := hwhole.length_le
        simp only [List.length_append, Call.steps, List.length_cons, List.length_map,
          Nat.add_le_add_iff_left, Nat.add_le_add_iff_right] at hlength
        exact List.take_of_length_le (by simpa using hlength)
      · refine ⟨c, List.prefix_refl c, ?_, fun _ => rfl⟩
        have hrest'' : ∀ s ∈ rest', s.path ≠ p := fun s hs => hafter s (hrest'.subset hs)
        have hwrite : Step.create p :: (c.map (.append p) ++ rest') =
            (Call.write p c).steps ++ rest' := rfl
        rw [hwrite, run_append, run_other hrest'', run_write]

end Extraction

section Runs

variable {source : List DirEntry}

/-- The steps of the extraction that are done. -/
def stepsDone (source : List DirEntry) : Option (Nat × BoxError) → Nat
  | some (n, _) => n
  | none => (steps source).length

theorem start_tree (t : Tree) (stopped : Option (Nat × BoxError)) :
    (start source t stopped).1 =
      attemptOnce Tree.apply Tree.begun (steps source) t (stepsDone source stopped) := by
  unfold start attemptOnce
  cases t.begun with
  | true => rfl
  | false =>
      cases stopped with
      | none => simp [stepsDone]
      | some stop => rfl

theorem steps_head (source : List DirEntry) :
    steps source = [] ∨ ∃ rest, steps source = .mkdir [] :: rest := by
  have hinits : ∀ path : Path, ∃ rest, path.inits = [] :: rest := by
    intro path
    cases path with
    | nil => exact ⟨[], rfl⟩
    | cons a path => exact ⟨_, rfl⟩
  cases source with
  | nil => exact .inl rfl
  | cons entry source =>
      right
      cases entry with
      | dir path entries =>
          obtain ⟨rest, hrest⟩ := hinits path
          simp [steps, extractAnsible, DirEntry.calls, Call.steps, hrest]
      | file path contents =>
          obtain ⟨rest, hrest⟩ := hinits path.dropLast
          simp [steps, extractAnsible, DirEntry.calls, Call.steps, hrest]

theorem WellFormed.steps_cons (h : WellFormed source) :
    ∃ rest, steps source = .mkdir [] :: rest := by
  rcases steps_head source with hnil | hcons
  · obtain ⟨f, hf, _⟩ := h.tasks .SSH
    obtain ⟨call, hcall, hfile⟩ := List.mem_filterMap.mp hf
    have hcalls := List.flatMap_eq_nil_iff.mp hnil call hcall
    cases call with
    | createDirAll path => cases hfile
    | write path contents => cases hcalls
  · exact hcons

theorem begun_run (h : WellFormed source) {n : Nat} (hn : n ≠ 0) :
    (run Tree.apply Tree.empty ((steps source).take n)).begun = true := by
  obtain ⟨rest, hrest⟩ := h.steps_cons
  obtain ⟨n, rfl⟩ := Nat.exists_eq_succ_of_ne_zero hn
  rw [hrest, List.take_succ_cons]
  have hroot : (Tree.empty.apply (.mkdir []) []).isSome := rfl
  exact isSome_run (l := rest.take n) hroot

/-- However often the daemon is started, the tree is what the first extraction left that
did anything. -/
theorem treeAfter_eq (h : WellFormed source) (history : List (Option (Nat × BoxError))) :
    treeAfter source history = run Tree.apply Tree.empty
      ((steps source).take (firstStop (history.map (stepsDone source)))) := by
  have hfresh : Tree.empty.begun = false := rfl
  have hrun : treeAfter source history = run (attemptOnce Tree.apply Tree.begun (steps source))
      Tree.empty (history.map (stepsDone source)) := by
    rw [treeAfter, run, run, List.foldl_map]
    simp only [start_tree]
  rw [hrun]
  exact attempts_eq hfresh (fun n hn => begun_run h hn) _

theorem start_validates {t : Tree} {stopped : Option (Nat × BoxError)}
    (h : (start source t stopped).2 = .ok ()) :
    (start source t stopped).1.validate = .ok () := by
  unfold start at h ⊢
  cases hbegun : t.begun with
  | true =>
      rw [hbegun] at h
      exact h
  | false =>
      rw [hbegun] at h
      cases stopped with
      | none => exact h
      | some stop => cases h

theorem validate_eq_ok_iff {t : Tree} :
    t.validate = .ok () ↔ ∀ a, (t (taskPath a)).isSome := by
  rw [Tree.validate, RunFiles.validate_eq_ok_iff]
  simp [taskPath]

/-- A start that ends well finds the first steps of the extraction, with a file for each
action. -/
theorem exists_done (h : WellFormed source) {history : List (Option (Nat × BoxError))}
    {stopped : Option (Nat × BoxError)}
    (hstart : (start source (treeAfter source history) stopped).2 = .ok ()) :
    ∃ done, done <+: steps source ∧
      (start source (treeAfter source history) stopped).1 = run Tree.apply Tree.empty done ∧
      ∀ a, (run Tree.apply Tree.empty done (taskPath a)).isSome := by
  have htree : (start source (treeAfter source history) stopped).1 =
      treeAfter source (history ++ [stopped]) := by
    rw [treeAfter, treeAfter, run, run, List.foldl_append]
    rfl
  have hvalid := start_validates hstart
  rw [htree, treeAfter_eq h] at hvalid ⊢
  exact ⟨_, List.take_prefix _ _, rfl, validate_eq_ok_iff.mp hvalid⟩

end Runs

section Result

variable {source : List DirEntry} {p q : Path} {c d : List UInt8} {done : List Step}

theorem eq_write {call : Call} {f : Path × List UInt8} (h : call.file = some f) :
    call = .write f.1 f.2 := by
  cases call with
  | createDirAll path => cases h
  | write path contents =>
      cases h
      rfl

theorem exists_calls {calls : List Call} (h : (p, c) ∈ calls.filterMap Call.file) :
    ∃ before after, calls = before ++ .write p c :: after := by
  obtain ⟨call, hcall, hfile⟩ := List.mem_filterMap.mp h
  rw [eq_write hfile] at hcall
  exact List.append_of_mem hcall

theorem exists_split {before after : List (Path × List UInt8)}
    (h : files source = before ++ (q, d) :: after) :
    ∃ l l', extractAnsible source = l ++ .write q d :: l' ∧ l.filterMap Call.file = before ∧
      l'.filterMap Call.file = after := by
  obtain ⟨l₁, l₂, hcalls, hl₁, hl₂⟩ := List.filterMap_eq_append_iff.mp h
  obtain ⟨l₃, call, l₄, rfl, hl₃, hcall, hl₄⟩ := List.filterMap_eq_cons_iff.mp hl₂
  refine ⟨l₁ ++ l₃, l₄, ?_, ?_, hl₄⟩
  · rw [hcalls, eq_write hcall, List.append_assoc]
  · rw [List.filterMap_append, hl₁, List.filterMap_eq_nil_iff.mpr hl₃, List.append_nil]

/-- Once the extraction has come to a later file, a file is whole. -/
theorem whole_of_later (h : WellFormed source) {before after : List (Path × List UInt8)}
    (hfiles : files source = before ++ (q, d) :: after) (hp : (p, c) ∈ before)
    (hdone : done <+: steps source) (hlater : (run Tree.apply Tree.empty done q).isSome) :
    run Tree.apply Tree.empty done p = some (.file c) := by
  obtain ⟨l, l', hsplit, rfl, -⟩ := exists_split hfiles
  obtain ⟨l₁, l₂, rfl⟩ := exists_calls hp
  have hsplit' : extractAnsible source = l₁ ++ .write p c :: (l₂ ++ .write q d :: l') := by
    rw [hsplit, List.append_assoc, List.cons_append]
  rcases node_of_done h hsplit hdone with ⟨_, hnone⟩ | ⟨hreached, _⟩
  · rw [hnone] at hlater
    cases hlater
  · have hwhole : l₁.flatMap Call.steps ++ (Call.write p c).steps <+: done := by
      refine List.IsPrefix.trans ?_ hreached
      simp only [List.flatMap_append, List.flatMap_cons, List.append_assoc]
      rw [← List.append_assoc]
      exact List.prefix_append _ _
    rcases node_of_done h hsplit' hdone with ⟨hbefore, _⟩ | ⟨_, b, _, hnode, hb⟩
    · have hlength := (hwhole.trans hbefore).length_le
      simp [Call.steps] at hlength
    · rw [hnode, hb hwhole]

/-- The extraction is stopped once a file is created. -/
def cutAt (before : List Call) (q : Path) : List Step :=
  before.flatMap Call.steps ++ [.create q]

theorem isPrefix_cutAt {before after : List Call}
    (hsplit : extractAnsible source = before ++ .write q d :: after) :
    cutAt before q <+: steps source := by
  have hsteps : steps source = cutAt before q ++
      (d.map (.append q) ++ after.flatMap Call.steps) := by
    rw [steps, hsplit, List.flatMap_append, List.flatMap_cons, cutAt, List.append_assoc]
    rfl
  rw [hsteps]
  exact List.prefix_append _ _

theorem cutAt_self {before : List Call} :
    run Tree.apply Tree.empty (cutAt before q) q = some (.file []) := by
  rw [cutAt, run_append]
  exact apply_self (.create q)

theorem cutAt_before (h : WellFormed source) {before after : List Call}
    (hsplit : extractAnsible source = before ++ .write q d :: after)
    (hp : (p, c) ∈ before.filterMap Call.file) :
    (run Tree.apply Tree.empty (cutAt before q) p).isSome := by
  have hdone := isPrefix_cutAt hsplit
  obtain ⟨l₁, l₂, rfl⟩ := exists_calls hp
  have hsplit' : extractAnsible source = l₁ ++ .write p c :: (l₂ ++ .write q d :: after) := by
    rw [hsplit, List.append_assoc, List.cons_append]
  rcases node_of_done h hsplit' hdone with ⟨hbefore, _⟩ | ⟨_, b, _, hnode, _⟩
  · have hlength := hbefore.length_le
    simp [cutAt] at hlength
  · rw [hnode]
    rfl

theorem cutAt_after (h : WellFormed source) {before after : List Call}
    (hsplit : extractAnsible source = before ++ .write q d :: after)
    (hp : (p, c) ∈ after.filterMap Call.file) :
    run Tree.apply Tree.empty (cutAt before q) p = none := by
  have hdone := isPrefix_cutAt hsplit
  obtain ⟨l₁, l₂, rfl⟩ := exists_calls hp
  have hsplit' : extractAnsible source = (before ++ .write q d :: l₁) ++ .write p c :: l₂ := by
    rw [hsplit, List.append_assoc, List.cons_append]
  rcases node_of_done h hsplit' hdone with ⟨_, hnone⟩ | ⟨hreached, _⟩
  · exact hnone
  · have hlength := hreached.length_le
    simp [cutAt, Call.steps] at hlength

theorem exists_last {P : Path × List UInt8 → Prop} {l : List (Path × List UInt8)}
    (h : ∃ f ∈ l, P f) :
    ∃ before f after, l = before ++ f :: after ∧ P f ∧ ∀ g ∈ after, ¬ P g := by
  induction l with
  | nil => simp at h
  | cons f l ih =>
      by_cases hl : ∃ g ∈ l, P g
      · obtain ⟨before, g, after, rfl, hg, hafter⟩ := ih hl
        exact ⟨f :: before, g, after, rfl, hg, hafter⟩
      · obtain ⟨g, hg, hP⟩ := h
        rcases List.mem_cons.mp hg with rfl | hg
        · exact ⟨[], g, l, rfl, hP, fun x hx hPx => hl ⟨x, hx, hPx⟩⟩
        · exact absurd ⟨g, hg, hP⟩ hl

/-- A start that was stopped once a file was created, seen by those after it. -/
def stoppedAt (before : List Call) (q : Path) : List (Option (Nat × BoxError)) :=
  [some ((cutAt before q).length, "No space left on device (os error 28)")]

theorem start_stoppedAt (h : WellFormed source) {before after : List Call}
    (hsplit : extractAnsible source = before ++ .write q d :: after) :
    start source (treeAfter source (stoppedAt before q)) none =
      (run Tree.apply Tree.empty (cutAt before q),
        (run Tree.apply Tree.empty (cutAt before q)).validate) := by
  have hlength : (cutAt before q).length ≠ 0 := by simp [cutAt]
  have hfirst : firstStop ((stoppedAt before q).map (stepsDone source)) =
      (cutAt before q).length := by
    simp [firstStop, stoppedAt, stepsDone, hlength]
  have htake := List.prefix_iff_eq_take.mp (isPrefix_cutAt hsplit)
  have hbegun := begun_run h hlength
  rw [← htake] at hbegun
  rw [treeAfter_eq h, hfirst, ← htake, start, if_pos hbegun]

/-- A start that ends well finds a file whole, whatever the starts before it came to,
exactly when the check looks for a file that is extracted later. -/
theorem alwaysWhole_iff (h : WellFormed source) {f : Path × List UInt8}
    (hf : f ∈ files source) : AlwaysWhole source f ↔ Checked source f := by
  constructor
  · intro hwhole
    obtain ⟨g₀, hg₀, ha₀⟩ := h.tasks .SSH
    obtain ⟨before, ⟨q, d⟩, after, hfiles, ⟨a, ha⟩, hlast⟩ :=
      exists_last (P := fun g => ∃ a, g.1 = taskPath a) ⟨g₀, hg₀, .SSH, ha₀⟩
    obtain rfl : q = taskPath a := ha
    obtain ⟨l, l', hsplit, rfl, rfl⟩ := exists_split hfiles
    have hvalid : (run Tree.apply Tree.empty (cutAt l (taskPath a))).validate = .ok () := by
      rw [validate_eq_ok_iff]
      intro b
      obtain ⟨⟨p, c⟩, hg, hgb⟩ := h.tasks b
      rw [← hgb]
      rw [hfiles] at hg
      rcases List.mem_append.mp hg with hg | hg
      · exact cutAt_before h hsplit hg
      · rcases List.mem_cons.mp hg with heq | hg
        · cases heq
          rw [cutAt_self]
          rfl
        · exact absurd ⟨b, hgb⟩ (hlast _ hg)
    have hfound := hwhole (stoppedAt l (taskPath a)) none
    rw [start_stoppedAt h hsplit] at hfound
    obtain ⟨p, c⟩ := f
    have hnode : run Tree.apply Tree.empty (cutAt l (taskPath a)) p = some (.file c) :=
      hfound hvalid
    have hmem := hf
    rw [hfiles] at hmem
    rcases List.mem_append.mp hmem with hmem | hmem
    · exact ⟨a, .inl ⟨_, d, _, hfiles, hmem⟩⟩
    · rcases List.mem_cons.mp hmem with heq | hmem
      · cases heq
        rw [cutAt_self] at hnode
        cases hnode
        exact ⟨a, .inr ⟨rfl, rfl⟩⟩
      · rw [cutAt_after h hsplit hmem] at hnode
        cases hnode
  · rintro ⟨a, ⟨before, d, after, hfiles, hmem⟩ | ⟨hpath, hempty⟩⟩ history stopped hstart
    · obtain ⟨done, hdone, htree, htasks⟩ := exists_done h hstart
      rw [htree]
      exact whole_of_later h hfiles hmem hdone (htasks a)
    · obtain ⟨done, hdone, htree, htasks⟩ := exists_done h hstart
      obtain ⟨l, l', hsplit⟩ := exists_calls hf
      have hexists := htasks a
      rw [← hpath] at hexists
      rw [htree]
      rcases node_of_done h hsplit hdone with ⟨_, hnone⟩ | ⟨_, b, hb, hnode, _⟩
      · rw [hnone] at hexists
        cases hexists
      · rw [hempty] at hb ⊢
        rw [hnode, List.prefix_nil.mp hb]

end Result

section Instances

/-- The files of the actions in the order of their names. -/
def taskFilenames : List String :=
  ["acme_get_cert.yaml", "base_setup.yaml", "basics_install.yaml", "bootstrap.yaml",
    "check_ports.yaml", "cloudflare_del.yaml", "cloudflare_setup.yaml", "destroy_server.yaml",
    "dns_reset.yaml", "doh_setup.yaml", "fail2ban_setup.yaml", "firewall.yaml",
    "firewall_bootstrap.yaml", "full_setup.yaml", "nginx_restart.yaml",
    "nginx_restore_config.yaml", "nginx_setup.yaml", "outblocked_update.yaml", "ssh_setup.yaml",
    "xui_add_inbound.yaml", "xui_auth.yaml", "xui_del_inbound.yaml", "xui_restart.yaml",
    "xui_restore_db.yaml", "xui_setup_panel.yaml"]

/-- Some of the files that are carried, with a line in each. -/
def carried : List DirEntry :=
  [.dir ["config_templates"] [.file ["config_templates", "unbound.conf"] [10]],
    .file ["master_playbook.yaml"] [10],
    .dir ["tasks"] (taskFilenames.map fun filename => .file ["tasks", filename] [10])]

theorem carried_wellFormed : WellFormed carried where
  nodup := by decide +kernel
  apart := by decide +kernel
  tasks a := by
    have hall : ∀ b ∈ all, ∃ f ∈ files carried, f.1 = taskPath b := by decide +kernel
    exact hall a (mem_all a)

/-- The last file of the tasks may be cut, while the others are always whole. -/
theorem alwaysWhole_iff_carried :
    AlwaysWhole carried (["master_playbook.yaml"], [10]) ∧
      ¬ AlwaysWhole carried (["tasks", "xui_setup_panel.yaml"], [10]) := by
  constructor
  · rw [alwaysWhole_iff carried_wellFormed (by decide +kernel)]
    exact ⟨.Acme, .inl ⟨(files carried).take 2, [10], (files carried).drop 3, by decide +kernel,
      by decide +kernel⟩⟩
  · rw [alwaysWhole_iff carried_wellFormed (by decide +kernel)]
    rintro ⟨a, ⟨before, d, after, hfiles, hmem⟩ | ⟨_, hempty⟩⟩
    · have hnot : (["tasks", "xui_setup_panel.yaml"], [10]) ∉ (files carried).dropLast := by
        decide +kernel
      rw [hfiles, List.dropLast_append_cons] at hnot
      exact hnot (List.mem_append_left _ hmem)
    · cases hempty

end Instances

end Xcplane.AnsibleSource
