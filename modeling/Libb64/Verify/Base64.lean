import Libb64.Base64
import Libb64.Verify.RoundTrip
import Libb64.Verify.Streams

/-!
# What the program does to the files

A run of `base64` is either incorrect and leaves every file alone, or it writes a beginning of the
converted text to its output file; it exits with 0 exactly if that is all of the text
(`base64Main_outcome`). Of two names for one file the program does not know, and reads nothing.
Between encoding a file and decoding the result back any commands may run that do not get to write
the encoded file (`script_roundTrip`).
-/

namespace Libb64

open BitString Rfc4648 Lines FileSystem

variable {T : Target} {ι : Type} [DecidableEq ι]

/-- The arguments name a mode and two files, spelled differently, that can be opened. -/
structure Accepted (env : ProgramEnv T) (files : FileSystem String ι Byte) (argv : List String)
    (choice input output : String) : Prop where
  argv_eq : ∃ program, argv = [program, choice, input, output]
  mode : choice = "-e" ∨ choice = "-d"
  spelling : input ≠ output
  readable : (files.contents (files.resolve input)).isSome ∧ env.mayRead input = true
  writable : env.mayWrite output = true

/-- What the input file holds once the output file has been opened. -/
def leftToRead (files : FileSystem String ι Byte) (input output : String) : List Byte :=
  if files.resolve input = files.resolve output then []
  else (files.contents (files.resolve input)).getD []

def converted (choice : String) (bytes : List Byte) : List Byte :=
  if choice = "-d" then decode bytes else encode bytes

@[simp] theorem converted_encode (bytes : List Byte) : converted "-e" bytes = encode bytes :=
  if_neg (by decide)

@[simp] theorem converted_decode (bytes : List Byte) : converted "-d" bytes = decode bytes :=
  if_pos rfl

/-- The text that a run should write. -/
def outputText (files : FileSystem String ι Byte) (choice input output : String) : List Byte :=
  converted choice (leftToRead files input output)

/-- `new[]` gives the stream wrapper its blocks. -/
def ProgramEnv.Grants (env : ProgramEnv T) (choice : String) : Prop :=
  if choice = "-d" then
    (decoderBuilder env.newArray).build.Granted []
  else
    (encoderBuilder env.newArray).build.cap ≠ 0 ∧
      (encoderBuilder env.newArray).build.Granted []
        ((encoderBuilder env.newArray).build.cap + 16)

/-! ## One run -/

section Run

variable {env : ProgramEnv T} {files : FileSystem String ι Byte} {argv : List String}
  {choice input output : String}

theorem leftToRead_eq (files : FileSystem String ι Byte) (input output : String) :
    ((files.put (files.resolve output) []).contents (files.resolve input)).getD [] =
      leftToRead files input output := by
  unfold leftToRead
  split
  · next halias => rw [halias, contents_put_same, Option.getD_some]
  · next hne => rw [contents_put_other hne]

theorem failed_ne_success : ExitStatus.exited 1 ≠ .exited 0 := by decide

/-- What the program makes of the two ways a stream function may end. -/
theorem surfaceFailure_eq (files : FileSystem String ι Byte) (file : ι) (room : Nat)
    (thrown : Bool) (text : List Byte) :
    let r := surfaceFailure (files.put file []) ⟨file, room, true⟩ thrown text
    (r.status = .exited 0 ↔ thrown = false ∧ text.length ≤ room) ∧
      r.files = files.put file (if thrown then [] else text.take room) := by
  have hwritten := (Written.opened files file room).write text
  rw [List.nil_append] at hwritten
  unfold surfaceFailure
  cases thrown with
  | true => simp
  | false =>
    dsimp only
    rw [if_neg Bool.false_ne_true, if_neg Bool.false_ne_true]
    split
    · next hgood => exact ⟨iff_of_true rfl ⟨rfl, hwritten.good_iff.mp hgood⟩, hwritten.files_eq⟩
    · next hbad =>
      refine ⟨iff_of_false failed_ne_success ?_, hwritten.files_eq⟩
      rintro ⟨-, hshort⟩
      exact hbad (hwritten.good_iff.mpr hshort)

theorem encodeStream_builder (env : ProgramEnv T) (bytes : List Byte) :
    let r := (encoderBuilder env.newArray).build.encodeStream env.encodeSimd [] bytes
    (r.thrown = false ↔ env.Grants "-e") ∧ (r.thrown = false → r.ostreamOut = encode bytes) := by
  by_cases hgrants : env.Grants "-e"
  · obtain ⟨hok, -, blocks, hblocks, hout⟩ :=
      encodeStream_text env.encodeSimd hgrants.1 hgrants.2 bytes
    refine ⟨iff_of_true hok hgrants, fun _ => hout.trans ?_⟩
    have hsession := encodeSession_eq (T := T) 0 blocks
    rw [toNat_eq_zero_iff.mpr rfl, hblocks] at hsession
    exact hsession
  · obtain ⟨hthrown, -⟩ := encodeStream_of_not_granted env.encodeSimd _ [] bytes hgrants
    dsimp only
    rw [hthrown]
    exact ⟨iff_of_false Bool.noConfusion hgrants, Bool.noConfusion⟩

theorem decodeStream_builder (env : ProgramEnv T) (bytes : List Byte) :
    let r := (decoderBuilder env.newArray).build.decodeStream env.decodeSimd [] env.contents bytes
    (r.thrown = false ↔ env.Grants "-d") ∧ (r.thrown = false → r.ostreamOut = decode bytes) := by
  by_cases hgrants : env.Grants "-d"
  · obtain ⟨-, hok, hout⟩ := decodeStream_of_granted env.decodeSimd hgrants env.contents bytes
    exact ⟨iff_of_true hok hgrants, fun _ => hout⟩
  · obtain ⟨-, hthrown, -⟩ :=
      decodeStream_of_not_granted env.decodeSimd _ [] env.contents bytes hgrants
    dsimp only
    rw [hthrown]
    exact ⟨iff_of_false Bool.noConfusion hgrants, Bool.noConfusion⟩

/-- **An accepted run** writes what the device takes of the converted text, and nothing where the
stream function throws. -/
theorem Accepted.run (h : Accepted env files argv choice input output) :
    let r := base64Main env files argv
    let text := outputText files choice input output
    (r.status = .exited 0 ↔ env.Grants choice ∧ text.length ≤ env.room) ∧
      ∃ written, r.files = files.put (files.resolve output) written ∧ written <+: text ∧
        (r.status = .exited 0 → written = text) := by
  obtain ⟨⟨program, rfl⟩, hmode, hspelling, hreadable, hwritable⟩ := h
  have hbad : ¬(choice ≠ "-e" ∧ choice ≠ "-d") := by
    rcases hmode with rfl | rfl <;> simp
  have hin : files.openIn (env.mayRead input) input = some _ :=
    openIn_eq_some_iff.mpr ⟨hreadable, rfl⟩
  have hout : files.openOut (env.mayWrite output) env.room output = some _ :=
    openOut_eq_some_iff.mpr ⟨hwritable, rfl⟩
  simp only [base64Main, if_neg hbad, if_neg hspelling, hin, hout, leftToRead_eq]
  -- the two modes differ in the stream function alone
  have hsurface : ∀ thrown text, (thrown = false ↔ env.Grants choice) →
      (thrown = false → text = outputText files choice input output) →
      let r := surfaceFailure (files.put (files.resolve output) [])
        ⟨files.resolve output, env.room, true⟩ thrown text
      (r.status = .exited 0 ↔ env.Grants choice ∧
          (outputText files choice input output).length ≤ env.room) ∧
        ∃ written, r.files = files.put (files.resolve output) written ∧
          written <+: outputText files choice input output ∧
          (r.status = .exited 0 → written = outputText files choice input output) := by
    intro thrown text hgrants htext
    obtain ⟨hstatus, hfiles⟩ :=
      surfaceFailure_eq files (files.resolve output) env.room thrown text
    dsimp only
    rw [hstatus, ← hgrants]
    cases thrown with
    | true =>
      refine ⟨by simp, [], hfiles, List.nil_prefix, ?_⟩
      rintro ⟨hno, -⟩
      cases hno
    | false =>
      rw [htext rfl] at hfiles ⊢
      refine ⟨Iff.rfl, _, hfiles, List.take_prefix _ _, ?_⟩
      rintro ⟨-, hshort⟩
      exact List.take_of_length_le hshort
  split
  · next hd =>
    obtain ⟨hgrants, htext⟩ := decodeStream_builder env (leftToRead files input output)
    refine hsurface _ _ (hd ▸ hgrants) fun hok => (htext hok).trans ?_
    rw [outputText, converted, if_pos hd]
  · next hd =>
    obtain ⟨hgrants, htext⟩ := encodeStream_builder env (leftToRead files input output)
    have he : choice = "-e" := hmode.resolve_right hd
    refine hsurface _ _ (he ▸ hgrants) fun hok => (htext hok).trans ?_
    rw [outputText, converted, if_neg hd]

omit [DecidableEq ι] in
theorem incorrect_spec (files : FileSystem String ι Byte) (message : String) :
    let r := MainResult.incorrect files message
    r.files = files ∧ r.status ≠ .exited 0 ∧ ∃ shown, r.stderr = usage ++ shown :=
  ⟨rfl, failed_ne_success, _, by rw [MainResult.incorrect, usageMessage, String.append_assoc,
    String.append_assoc]⟩

/-- **A run that is not accepted** changes nothing, shows the usage and fails. -/
theorem base64Main_of_not_accepted
    (h : ¬∃ choice input output, Accepted env files argv choice input output) :
    let r := base64Main env files argv
    r.files = files ∧ r.status ≠ .exited 0 ∧ ∃ shown, r.stderr = usage ++ shown := by
  unfold base64Main
  split
  · exact ⟨rfl, by simp, "", String.append_empty.symm⟩
  · next program choice input output =>
    split
    · exact incorrect_spec files _
    next hmode =>
    split
    · exact incorrect_spec files _
    next hspelling =>
    cases hin : files.openIn (env.mayRead input) input with
    | none => exact incorrect_spec files _
    | some instream =>
      cases hout : files.openOut (env.mayWrite output) env.room output with
      | none => exact incorrect_spec files _
      | some opened =>
        refine absurd ⟨choice, input, output, ⟨program, rfl⟩, ?_, hspelling,
          (openIn_eq_some_iff.mp hin).1, (openOut_eq_some_iff.mp hout).1⟩ h
        by_cases he : choice = "-e"
        · exact .inl he
        · exact .inr (not_not.mp fun hd => hmode ⟨he, hd⟩)
  · exact incorrect_spec files _

theorem base64Main_success_iff (env : ProgramEnv T) (files : FileSystem String ι Byte)
    (argv : List String) :
    (base64Main env files argv).status = .exited 0 ↔
      ∃ choice input output, Accepted env files argv choice input output ∧ env.Grants choice ∧
        (outputText files choice input output).length ≤ env.room := by
  constructor
  · intro hstatus
    by_contra hno
    have haccepted : ¬∃ choice input output, Accepted env files argv choice input output := by
      rintro ⟨choice, input, output, h⟩
      exact hno ⟨choice, input, output, h, h.run.1.mp hstatus⟩
    exact (base64Main_of_not_accepted haccepted).2.1 hstatus
  · rintro ⟨choice, input, output, h, hgrants, hshort⟩
    exact h.run.1.mpr ⟨hgrants, hshort⟩

/-- **The files after a run**, accepted or not. -/
theorem base64Main_files (env : ProgramEnv T) (files : FileSystem String ι Byte)
    (argv : List String) :
    let r := base64Main env files argv
    (∀ choice input output, Accepted env files argv choice input output →
      ∃ written, r.files = files.put (files.resolve output) written ∧
        written <+: outputText files choice input output ∧
        (r.status = .exited 0 → written = outputText files choice input output)) ∧
      ((¬∃ choice input output, Accepted env files argv choice input output) →
        r.files = files ∧ ∃ shown, r.stderr = usage ++ shown) := by
  refine ⟨fun choice input output h => h.run.2, fun h => ?_⟩
  obtain ⟨hfiles, -, hshown⟩ := base64Main_of_not_accepted h
  exact ⟨hfiles, hshown⟩

end Run

/-- **One run in whole**: it succeeds exactly if it is accepted, `new[]` does not throw and the
device takes all of the converted text. If it is accepted, only its output file changes, to a
beginning of that text, and to all of it if the run succeeds; if not, no file changes and the usage
is shown. -/
theorem base64Main_outcome (env : ProgramEnv T) (files : FileSystem String ι Byte)
    (argv : List String) :
    let r := base64Main env files argv
    (r.status = .exited 0 ↔ ∃ choice input output, Accepted env files argv choice input output ∧
      env.Grants choice ∧ (outputText files choice input output).length ≤ env.room) ∧
    (∀ choice input output, Accepted env files argv choice input output →
      ∃ written, r.files = files.put (files.resolve output) written ∧
        written <+: outputText files choice input output ∧
        (r.status = .exited 0 → written = outputText files choice input output)) ∧
    ((¬∃ choice input output, Accepted env files argv choice input output) →
      r.files = files ∧ ∃ shown, r.stderr = usage ++ shown) :=
  ⟨base64Main_success_iff env files argv, base64Main_files env files argv⟩

/-! ## Scripts -/

/-- One command of a script, run in an environment of its own, perhaps on another target. -/
structure Command where
  target : Target
  env : ProgramEnv target
  argv : List String

def Command.run (cmd : Command) (files : FileSystem String ι Byte) : MainResult ι :=
  base64Main cmd.env files cmd.argv

def script (files : FileSystem String ι Byte) : List Command → FileSystem String ι Byte
  | [] => files
  | cmd :: cmds => script (cmd.run files).files cmds

/-- The command is accepted and `file` is its output. -/
def Command.Writes (cmd : Command) (files : FileSystem String ι Byte) (file : ι) : Prop :=
  ∃ choice input output, Accepted cmd.env files cmd.argv choice input output ∧
    files.resolve output = file

/-- No command of the script writes `file` when its turn comes. -/
def Spares (file : ι) (files : FileSystem String ι Byte) : List Command → Prop
  | [] => True
  | cmd :: cmds => ¬cmd.Writes files file ∧ Spares file (cmd.run files).files cmds

section Scripts

variable {files : FileSystem String ι Byte} {file : ι}

/-- What a command can do to the files. -/
theorem Command.run_cases (cmd : Command) (files : FileSystem String ι Byte) :
    (∃ file written, cmd.Writes files file ∧ (cmd.run files).files = files.put file written) ∨
      (cmd.run files).files = files := by
  obtain ⟨hwritten, hkept⟩ := base64Main_files cmd.env files cmd.argv
  by_cases haccepted :
      ∃ choice input output, Accepted cmd.env files cmd.argv choice input output
  · obtain ⟨choice, input, output, h⟩ := haccepted
    obtain ⟨written, heq, -⟩ := hwritten choice input output h
    exact .inl ⟨files.resolve output, written, ⟨choice, input, output, h, rfl⟩, heq⟩
  · exact .inr (hkept haccepted).1

theorem Command.run_resolve (cmd : Command) (files : FileSystem String ι Byte) :
    (cmd.run files).files.resolve = files.resolve := by
  rcases cmd.run_cases files with ⟨file, written, -, heq⟩ | heq
  · rw [heq, resolve_put]
  · rw [heq]

/-- **One command** leaves all files but its output alone. -/
theorem Command.run_contents {cmd : Command} (h : ¬cmd.Writes files file) :
    (cmd.run files).files.contents file = files.contents file := by
  rcases cmd.run_cases files with ⟨file', written, hwrites, heq⟩ | heq
  · have hne : file ≠ file' := by
      rintro rfl
      exact h hwrites
    rw [heq, contents_put_other hne]
  · rw [heq]

theorem script_resolve (files : FileSystem String ι Byte) (cmds : List Command) :
    (script files cmds).resolve = files.resolve := by
  induction cmds generalizing files with
  | nil => rfl
  | cons cmd cmds ih => exact (ih _).trans (cmd.run_resolve files)

theorem script_contents {cmds : List Command} (h : Spares file files cmds) :
    (script files cmds).contents file = files.contents file := by
  induction cmds generalizing files with
  | nil => rfl
  | cons cmd cmds ih =>
    obtain ⟨hcmd, hcmds⟩ := h
    rw [script, ih hcmds, cmd.run_contents hcmd]

/-- What a command that succeeds has read and written. -/
theorem Command.run_success {cmd : Command} {program choice input output : String}
    (hargv : cmd.argv = [program, choice, input, output])
    (h : (cmd.run files).status = .exited 0) :
    ∃ bytes, files.contents (files.resolve input) = some bytes ∧
      (cmd.run files).files.contents (files.resolve output) =
        some (outputText files choice input output) := by
  obtain ⟨choice', input', output', haccepted, -⟩ :=
    (base64Main_success_iff cmd.env files cmd.argv).mp h
  obtain ⟨program', hargv'⟩ := haccepted.argv_eq
  rw [hargv'] at hargv
  cases hargv
  obtain ⟨bytes, hbytes⟩ := Option.isSome_iff_exists.mp haccepted.readable.1
  obtain ⟨-, written, heq, -, hwritten⟩ := haccepted.run
  refine ⟨bytes, hbytes, ?_⟩
  rw [← hwritten h, Command.run, heq, contents_put_same]

end Scripts

/-- **The round trip through files**: `base64 -e a b` and later `base64 -d b c` give the bytes of
`a` back, whatever commands ran in between, if none of these got to write the file of `b`, unless
two names of one of the calls led to the same file, which loses all bytes. -/
theorem script_roundTrip (files : FileSystem String ι Byte) (first last : Command)
    (between : List Command) (a b c program program' : String)
    (hfirst : first.argv = [program, "-e", a, b]) (hlast : last.argv = [program', "-d", b, c])
    (hbetween : Spares (files.resolve b) (first.run files).files between)
    (hfirst₀ : (first.run files).status = .exited 0)
    (hlast₀ : (last.run (script (first.run files).files between)).status = .exited 0) :
    ∃ bytes, files.contents (files.resolve a) = some bytes ∧
      ((last.run (script (first.run files).files between)).files.contents (files.resolve c) =
          some bytes ↔
        bytes = [] ∨ files.resolve a ≠ files.resolve b ∧ files.resolve b ≠ files.resolve c) := by
  obtain ⟨bytes, hbytes, hencoded⟩ := Command.run_success hfirst hfirst₀
  obtain ⟨code, hcode, hdecoded⟩ := Command.run_success hlast hlast₀
  have hresolve : (script (first.run files).files between).resolve = files.resolve :=
    (script_resolve _ between).trans (first.run_resolve files)
  have hkept : (script (first.run files).files between).contents (files.resolve b) =
      (first.run files).files.contents (files.resolve b) := script_contents hbetween
  rw [hresolve] at hcode hdecoded
  refine ⟨bytes, hbytes, ?_⟩
  rw [hdecoded, Option.some.injEq, outputText, converted_decode, leftToRead, hresolve, hkept,
    hencoded, Option.getD_some, outputText, converted_encode, leftToRead, hbytes, Option.getD_some]
  by_cases hab : files.resolve a = files.resolve b
  · rw [if_pos hab, encode_nil]
    simp [hab, eq_comm]
  · rw [if_neg hab]
    by_cases hbc : files.resolve b = files.resolve c
    · rw [if_pos hbc, decode_nil]
      simp [hbc, eq_comm]
    · rw [if_neg hbc, decode_encode]
      exact iff_of_true rfl (.inr ⟨hab, hbc⟩)

/-- Three files on different targets; in between a copy of the first is made, and a command that
names the encoded file as its output is rejected, as it names it as its input too. -/
theorem script_roundTrip_foo :
    let env (T : Target) : ProgramEnv T :=
      { newArray calls _ := some (calls.length + 1), encodeSimd := encodeSimdNone,
        decodeSimd := decodeSimdNone, contents _ := 7, mayRead _ := true, mayWrite _ := true,
        room := 4 }
    let files : FileSystem String Nat Byte :=
      { resolve := String.length
        contents n := if n = 1 then some ("foo".toList.map charCode) else none }
    let first : Command := ⟨i386, env i386, ["base64", "-e", "a", "bb"]⟩
    let last : Command := ⟨x86_64, env x86_64, ["base64", "-d", "bb", "ccc"]⟩
    let between : List Command := [⟨i386, env i386, ["base64", "-e", "a", "dddd"]⟩,
      ⟨i386, env i386, ["base64", "-d", "bb", "bb"]⟩]
    ∃ bytes, files.contents 1 = some bytes ∧
      ((last.run (script (first.run files).files between)).files.contents 3 = some bytes ↔
        bytes = [] ∨ 1 ≠ 2 ∧ 2 ≠ 3) := by
  intro env files first last between
  have hbetween : Spares 2 (first.run files).files between := by
    refine ⟨?_, ?_, trivial⟩
    · rintro ⟨choice, input, output, ⟨⟨program, hargv⟩, -, -, -, -⟩, hfile⟩
      cases hargv
      rw [first.run_resolve] at hfile
      exact absurd hfile (by decide)
    · rintro ⟨choice, input, output, ⟨⟨program, hargv⟩, -, hspelling, -, -⟩, -⟩
      cases hargv
      exact hspelling rfl
  exact script_roundTrip files first last between "a" "bb" "ccc" "base64" "base64" rfl rfl hbetween
    (by decide +kernel) (by decide +kernel)

end Libb64
