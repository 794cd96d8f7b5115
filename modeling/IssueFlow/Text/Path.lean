import IssueFlow.Text.JavaScript

/-!
# Paths

`path.join` of Node on POSIX systems, and the file extension it finds. A path is
kept in its normal form: its segments, without empty segments, `.` and the `..`
that can be resolved.

## Main definitions

* `Path`, `normalize`, `join` — paths in normal form
* `Path.child` — a file of a directory
* `IsFileName` — a text that names a file of a directory

## Main results

* `join_fileName` — joining a directory and a file name gives a file of the directory
* `slash_notMem_extname` — a file extension has no slash
-/

namespace IssueFlow

open JavaScript

/-- A path in normal form. -/
structure Path where
  absolute : Bool
  segments : List String
  deriving DecidableEq, Repr

namespace Path

/-- A file of a directory. -/
def child (path : Path) (name : String) : Path := { path with segments := path.segments ++ [name] }

/-- The directory of a file. -/
def parent (path : Path) : Path := { path with segments := path.segments.dropLast }

/-- A path and the directories above it. -/
def ancestors (path : Path) : List Path :=
  path.segments.inits.map fun segments => { path with segments := segments }

@[simp] theorem parent_child (path : Path) (name : String) : (path.child name).parent = path := by
  simp [child, parent]

theorem child_inj {path : Path} {first second : String} :
    path.child first = path.child second ↔ first = second := by
  simp [child]

/-- The segments up to a place, with the last one first, and one more. -/
def push (absolute : Bool) (above : List String) (segment : String) : List String :=
  if segment = "" ∨ segment = "." then above
  else if segment = ".." then
    match above with
    | [] => if absolute then [] else [".."]
    | last :: rest => if last = ".." then ".." :: above else rest
  else segment :: above

/-- The segments between the slashes of a text. -/
def split (text : String) : List String := (text.toList.splitOn '/').map String.ofList

/-- `path.normalize` -/
def normalize (text : String) : Path :=
  let absolute := text.toList.head? = some '/'
  { absolute := absolute
    segments := ((split text).foldl (push absolute) []).reverse }

/-- `path.join(directory, name)` -/
def join (directory name : String) : Path :=
  if directory = "" then normalize name
  else if name = "" then normalize directory
  else normalize (directory ++ "/" ++ name)

/-- A text that names a file of a directory: one segment that is kept. -/
structure IsFileName (name : String) : Prop where
  noSlash : '/' ∉ name.toList
  nonempty : name ≠ ""
  notDot : name ≠ "."
  notDots : name ≠ ".."

theorem push_fileName {name : String} (isFileName : IsFileName name) (absolute : Bool)
    (above : List String) : push absolute above name = name :: above := by
  unfold push
  rw [if_neg (not_or.mpr ⟨isFileName.nonempty, isFileName.notDot⟩), if_neg isFileName.notDots]

theorem split_append (directory : String) {name : String} (noSlash : '/' ∉ name.toList) :
    split (directory ++ "/" ++ name) = split directory ++ [name] := by
  have characters : (directory ++ "/" ++ name).toList = directory.toList ++ '/' :: name.toList := by
    simp
  rw [split, characters, List.splitOn_append_cons_self, List.map_append,
    List.splitOn_eq_singleton noSlash]
  simp [split]

/-- **Joining a directory and a file name** gives a file of the directory. -/
theorem join_fileName {directory name : String} (nonempty : directory ≠ "")
    (isFileName : IsFileName name) : join directory name = (normalize directory).child name := by
  rw [join, if_neg nonempty, if_neg isFileName.nonempty]
  have start : (directory ++ "/" ++ name).toList.head? = directory.toList.head? := by
    have some : directory.toList ≠ [] := by simpa using nonempty
    rw [String.toList_append, String.toList_append, List.append_assoc,
      List.head?_append_of_ne_nil _ some]
  unfold normalize child
  simp only [start, split_append directory isFileName.noSlash, List.foldl_append, List.foldl_cons,
    List.foldl_nil, push_fileName isFileName, List.reverse_cons]

end Path

/-! ### File extensions -/

/-- **A file extension** has no slash. -/
theorem slash_notMem_extname (path : String) : '/' ∉ (extname path).toList := by
  have base : ∀ c ∈ lastSegment path.toList, c ≠ '/' := by
    intro c member
    have all := List.all_takeWhile (p := fun c => decide (c ≠ '/'))
      (l := path.toList.reverse.dropWhile (· = '/'))
    have taken := List.all_eq_true.mp all c (List.mem_reverse.mp member)
    exact of_decide_eq_true taken
  unfold extname
  simp only
  split
  · simp
  · simp
  · split_ifs
    · simp
    · simp only [String.toList_ofList, List.mem_cons, List.mem_reverse, not_or]
      refine ⟨by decide, fun member => ?_⟩
      have here := (List.takeWhile_sublist _).subset member
      exact base '/' (List.mem_reverse.mp here) rfl

/-- Cutting a text adds nothing but replacement characters. -/
theorem mem_sliceChars {c : Char} {units : ℕ} {cs : List Char} (member : c ∈ sliceChars units cs) :
    c ∈ cs ∨ c = Char.ofNat 0xFFFD := by
  induction cs generalizing units with
  | nil => cases member
  | cons first cs ih =>
      unfold sliceChars at member
      split_ifs at member
      · cases member
      · rcases List.mem_cons.mp member with rfl | later
        · exact .inl List.mem_cons_self
        · exact (ih later).imp_left (List.mem_cons_of_mem _)
      · exact .inr (List.mem_singleton.mp member)
      · rcases List.mem_cons.mp member with rfl | later
        · exact .inl List.mem_cons_self
        · exact (ih later).imp_left (List.mem_cons_of_mem _)

theorem slash_notMem_slice {units : ℕ} {text : String} (noSlash : '/' ∉ text.toList) :
    '/' ∉ (slice units text).toList := by
  rw [slice, String.toList_ofList]
  intro member
  rcases mem_sliceChars member with here | replaced
  · exact noSlash here
  · exact absurd replaced (by decide)

end IssueFlow
