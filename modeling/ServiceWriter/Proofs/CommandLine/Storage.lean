import Mathlib.Logic.Function.Basic
import ServiceWriter.CommandLine.Machine

/-!
# What is kept of a run

A run is judged by the bytes of the files and by what stands on the stream for results (`View`). A
host has a storage if its operations do to this what their names say (`Storage`): nothing but
writing changes a file, a write changes one file or fails and changes none, and only text that is
put on the stream for results gets there. When an operation on files fails is left open. The machine
in memory has a storage (`Machine.storage`).
-/

set_option autoImplicit false

namespace ServiceWriter.CommandLine

/-- The bytes of the files and the text on the stream for results. -/
@[ext]
structure View where
  files : Path → Option ByteArray
  out : String

namespace View

/-- With a text put on the stream for results. -/
def print (view : View) (text : String) : View := { view with out := view.out ++ text }

/-- With a text written to a file. -/
def put (view : View) (path : Path) (text : String) : View :=
  { view with files := Function.update view.files path (some text.toUTF8) }

@[simp] theorem files_print (view : View) (text : String) : (view.print text).files = view.files :=
  rfl

@[simp] theorem out_print (view : View) (text : String) :
    (view.print text).out = view.out ++ text :=
  rfl

@[simp] theorem out_put (view : View) (path : Path) (text : String) :
    (view.put path text).out = view.out :=
  rfl

@[simp] theorem files_put_self (view : View) (path : Path) (text : String) :
    (view.put path text).files path = some text.toUTF8 :=
  Function.update_self _ _ _

theorem files_put_of_ne (view : View) {path other : Path} (text : String) (ne : other ≠ path) :
    (view.put path text).files other = view.files other :=
  Function.update_of_ne ne _ _

@[simp] theorem print_empty (view : View) : view.print "" = view :=
  View.ext rfl (String.append_empty)

@[simp] theorem print_print (view : View) (text text' : String) :
    (view.print text).print text' = view.print (text ++ text') :=
  View.ext rfl String.append_assoc

end View

/-- How a host is viewed, and what its operations do to the view. -/
structure Storage {σ : Type} (host : Host (StateM σ)) where
  view : σ → View
  isThere : ∀ path s, view ((host.isThere path).run s).2 = view s
  read : ∀ path s, view ((host.read path).run s).2 = view s
  /-- What is read of a file is what it holds. -/
  holds : ∀ path s bytes, ((host.read path).run s).1 = .ok bytes →
    (view s).files path = some bytes
  makeDirectory : ∀ path s, view ((host.makeDirectory path).run s).2 = view s
  write_ok : ∀ path text s, ((host.write path text).run s).1 = .ok () →
    view ((host.write path text).run s).2 = (view s).put path text
  write_error : ∀ path text s message, ((host.write path text).run s).1 = .error message →
    view ((host.write path text).run s).2 = view s
  out : ∀ text s, view ((host.out text).run s).2 = (view s).print text
  complain : ∀ text s, view ((host.complain text).run s).2 = view s

/-! ## The machine in memory -/

namespace FileTree

variable {tree tree' : FileTree} {path : Path}

theorem lookup_of_read {text : String} (found : tree.read path = .ok text) :
    tree.files.lookup path = some text := by
  unfold read at found
  split at found
  · cases found
  · split at found
    · next looked =>
      rw [looked, Except.ok.inj found]
    · cases found

theorem files_of_makeDirectory (made : tree.makeDirectory path = .ok tree') :
    tree'.files = tree.files := by
  unfold makeDirectory at made
  split at made
  · rw [Except.ok.inj made]
  · split at made
    · cases made
    · split at made
      · cases made
      · rw [← Except.ok.inj made]

/-- An entry taken out does not show elsewhere. -/
theorem lookup_filter_of_ne {files : List (Path × String)} {other : Path} (ne : other ≠ path) :
    (files.filter fun file => file.1 != path).lookup other = files.lookup other := by
  induction files with
  | nil => rfl
  | cons file rest ih =>
    by_cases taken : file.1 = path
    · rw [List.filter_cons_of_neg (by simp [taken]), ih, List.lookup_cons,
        beq_false_of_ne (taken ▸ ne)]
    · rw [List.filter_cons_of_pos (by simp [taken]), List.lookup_cons, List.lookup_cons, ih]

theorem lookup_of_write {text : String} (written : tree.write path text = .ok tree')
    (other : Path) :
    tree'.files.lookup other = if other = path then some text else tree.files.lookup other := by
  unfold write at written
  split at written
  · cases written
  · split at written
    · cases written
    · rw [← Except.ok.inj written]
      by_cases same : other = path
      · rw [if_pos same, same, List.lookup_cons_self]
      · rw [if_neg same, List.lookup_cons, beq_false_of_ne same]
        exact lookup_filter_of_ne same

end FileTree

namespace Machine

/-- The view of a machine. -/
def view (machine : Machine) : View where
  files path := (machine.tree.files.lookup path).map String.toUTF8
  out := machine.out

/-- What a change of the tree answers, and what it leaves. -/
theorem run_change (f : FileTree → Except FileError FileTree) (machine : Machine) :
    (change f).run machine =
      match f machine.tree with
      | .ok tree => (.ok (), { machine with tree })
      | .error e => (.error e.code, machine) :=
  rfl

theorem run_read (here : Path) (notJson : String) (path : Path) (machine : Machine) :
    ((host here notJson).read path).run machine =
      (match machine.tree.read path with
        | .ok text => .ok text.toUTF8
        | .error e => .error e.code, machine) := by
  change ((match machine.tree.read path with
    | .ok text => pure (.ok text.toUTF8)
    | .error e => pure (.error e.code) : StateM Machine (Except String ByteArray)).run machine) = _
  cases machine.tree.read path with
  | ok text => rfl
  | error e => rfl

/-- Nothing on the machine in memory happens behind the view. -/
def storage (here : Path) (notJson : String) : Storage (host here notJson) where
  view := view
  isThere _ _ := rfl
  read path machine := by rw [run_read]
  holds path machine bytes found := by
    rw [run_read] at found
    cases read : machine.tree.read path with
    | ok text =>
      rw [read] at found
      simp only [view, FileTree.lookup_of_read read, ← Except.ok.inj found, Option.map_some]
    | error e =>
      rw [read] at found
      cases found
  makeDirectory path machine := by
    rw [show (host here notJson).makeDirectory path = change (·.makeDirectory path) from rfl,
      run_change]
    cases made : machine.tree.makeDirectory path with
    | ok tree => simp only [view, FileTree.files_of_makeDirectory made]
    | error e => rfl
  write_ok path text machine written := by
    rw [show (host here notJson).write path text = change (·.write path text) from rfl,
      run_change] at written ⊢
    cases wrote : machine.tree.write path text with
    | ok tree =>
      refine View.ext (funext fun other => ?_) rfl
      simp only [view, View.put, FileTree.lookup_of_write wrote, Function.update_apply]
      split <;> rfl
    | error e =>
      rw [wrote] at written
      cases written
  write_error path text machine message failed := by
    rw [show (host here notJson).write path text = change (·.write path text) from rfl,
      run_change] at failed ⊢
    cases wrote : machine.tree.write path text with
    | ok tree =>
      rw [wrote] at failed
      cases failed
    | error e => rfl
  out _ _ := rfl
  complain _ _ := rfl

end Machine

end ServiceWriter.CommandLine
