import Mathlib.Data.List.Basic
import Mathlib.Logic.Function.Basic

/-!
# Files behind names

A name leads to a file, and several names may lead to one. A file opened for writing starts empty,
and an output stream on it passes on what the device has room for. A stream whose write has failed
writes nothing more. So the file holds the beginning of all that was written, however it was cut
into writes, and the stream is good as long as that is all of it (`Written.writeAll`).
-/

/-- What a name leads to, and what the files that exist hold. -/
structure FileSystem (ν ι β : Type*) where
  resolve : ν → ι
  contents : ι → Option (List β)

/-- An output stream: its file, the number of elements the device still takes, and whether all
writes so far went through. -/
structure OutStream (ι : Type*) where
  file : ι
  room : Nat
  good : Bool

namespace FileSystem

variable {ν ι β : Type*} [DecidableEq ι] {files files₀ : FileSystem ν ι β} {file file' : ι}
  {out : OutStream ι} {room : Nat} {text : List β}

/-- The file is there and holds exactly `bytes`. -/
def put (files : FileSystem ν ι β) (file : ι) (bytes : List β) : FileSystem ν ι β :=
  { files with contents := Function.update files.contents file (some bytes) }

/-- The file to read from, if it is there and may be read. -/
def openIn (files : FileSystem ν ι β) (permitted : Bool) (name : ν) : Option ι :=
  if (files.contents (files.resolve name)).isSome ∧ permitted = true then
    some (files.resolve name)
  else
    none

/-- An output stream on a file that is created or truncated, if that is permitted. -/
def openOut (files : FileSystem ν ι β) (permitted : Bool) (room : Nat) (name : ν) :
    Option (FileSystem ν ι β × OutStream ι) :=
  if permitted then
    some (files.put (files.resolve name) [], ⟨files.resolve name, room, true⟩)
  else
    none

def write (files : FileSystem ν ι β) (out : OutStream ι) (bytes : List β) :
    FileSystem ν ι β × OutStream ι :=
  if out.good then
    (files.put out.file ((files.contents out.file).getD [] ++ bytes.take out.room),
      { out with room := out.room - bytes.length, good := decide (bytes.length ≤ out.room) })
  else
    (files, out)

def writeAll (files : FileSystem ν ι β) (out : OutStream ι) :
    List (List β) → FileSystem ν ι β × OutStream ι
  | [] => (files, out)
  | bytes :: rest => (files.write out bytes).1.writeAll (files.write out bytes).2 rest

@[simp] theorem resolve_put (bytes : List β) : (files.put file bytes).resolve = files.resolve := rfl

@[simp] theorem contents_put_same (bytes : List β) :
    (files.put file bytes).contents file = some bytes :=
  Function.update_self ..

theorem contents_put_other (h : file' ≠ file) (bytes : List β) :
    (files.put file bytes).contents file' = files.contents file' :=
  Function.update_of_ne h ..

@[simp] theorem put_put (bytes bytes' : List β) :
    (files.put file bytes).put file bytes' = files.put file bytes' := by
  simp [put]

omit [DecidableEq ι] in
theorem openIn_eq_some_iff {permitted : Bool} {name : ν} :
    files.openIn permitted name = some file ↔
      ((files.contents (files.resolve name)).isSome ∧ permitted = true) ∧
        files.resolve name = file := by
  unfold openIn
  split
  · next h => rw [Option.some.injEq, and_iff_right h]
  · next h => exact iff_of_false (fun hnone => nomatch hnone) fun h' => h h'.1

theorem openOut_eq_some_iff {permitted : Bool} {name : ν}
    {opened : FileSystem ν ι β × OutStream ι} :
    files.openOut permitted room name = some opened ↔
      permitted = true ∧
        (files.put (files.resolve name) [], ⟨files.resolve name, room, true⟩) = opened := by
  unfold openOut
  split
  · next h => rw [Option.some.injEq, and_iff_right h]
  · next h => exact iff_of_false (fun hnone => nomatch hnone) fun h' => h h'.1

/-- The stream was opened on a file of `files₀` with the given room, and `text` was written to it
since. -/
structure Written (files₀ : FileSystem ν ι β) (file : ι) (room : Nat) (text : List β)
    (files : FileSystem ν ι β) (out : OutStream ι) : Prop where
  file_eq : out.file = file
  files_eq : files = files₀.put file (text.take room)
  good_iff : out.good = true ↔ text.length ≤ room
  room_eq : out.good = true → out.room = room - text.length

namespace Written

theorem opened (files₀ : FileSystem ν ι β) (file : ι) (room : Nat) :
    Written files₀ file room [] (files₀.put file []) ⟨file, room, true⟩ where
  file_eq := rfl
  files_eq := by rw [List.take_nil]
  good_iff := iff_of_true rfl (Nat.zero_le room)
  room_eq _ := rfl

theorem write (h : Written files₀ file room text files out) (bytes : List β) :
    Written files₀ file room (text ++ bytes) (files.write out bytes).1
      (files.write out bytes).2 := by
  obtain ⟨rfl, rfl, hgood, hroom⟩ := h
  cases hout : out.good with
  | false =>
    have hlong : room < text.length := by
      rw [← Nat.not_le, ← hgood, hout]
      exact Bool.false_ne_true
    simp only [FileSystem.write, hout, Bool.false_eq_true, if_false]
    refine ⟨rfl, ?_, ?_, fun h => absurd (hout.symm.trans h) Bool.false_ne_true⟩
    · rw [List.take_append_of_le_length (Nat.le_of_lt hlong)]
    · rw [hout, List.length_append]
      exact iff_of_false Bool.false_ne_true (by omega)
  | true =>
    have hshort := hgood.mp hout
    have hleft := hroom hout
    simp only [FileSystem.write, hout, if_true, contents_put_same, Option.getD_some, put_put]
    refine ⟨rfl, ?_, ?_, fun _ => ?_⟩
    · rw [hleft, List.take_append]
    · rw [decide_eq_true_eq, hleft, List.length_append]
      omega
    · dsimp only
      rw [hleft, List.length_append]
      omega

/-- **What any list of writes leaves** of all that was written. -/
theorem writeAll (h : Written files₀ file room text files out) (chunks : List (List β)) :
    Written files₀ file room (text ++ chunks.flatten) (files.writeAll out chunks).1
      (files.writeAll out chunks).2 := by
  induction chunks generalizing files out text with
  | nil =>
    rw [List.flatten_nil, List.append_nil]
    exact h
  | cons bytes rest ih =>
    rw [List.flatten_cons, ← List.append_assoc]
    exact ih (h.write bytes)

end Written

end FileSystem
