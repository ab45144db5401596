import Libb64.DecodeStream
import Libb64.EncodeStream
import Libb64.Lib.Files

/-!
# The command line program, `base64.cc`

One run checks its arguments, opens the input file, then the output file, which it truncates or
creates, passes the one through a stream wrapper into the other, and looks at last whether
everything was written. What it depends on besides its arguments and the files is its environment:
what may be opened, how much the device takes, and whether `new[]` throws. A file is read to its end
without an error.
-/

namespace Libb64

open FileSystem

variable {T : Target} {ι : Type} [DecidableEq ι]

/-- How a program ends; an exception that nothing catches terminates it. -/
inductive ExitStatus where
  | exited (code : CInt)
  | terminated
deriving DecidableEq, Repr

structure ProgramEnv (T : Target) where
  newArray : List (ReallocCall T) → T.SizeT → Option Nat
  encodeSimd : Base64EncodeBulkSimd
  decodeSimd : Base64DecodeBulkSimd
  contents : Nat → Byte
  mayRead : String → Bool
  mayWrite : String → Bool
  room : Nat

def usage : String :=
  "base64: Encodes and Decodes files using base64\n" ++
  "Usage: base64 [-e|-d] [input] [output]\n" ++
  "   Where [-e] will encode the input file into the output file,\n" ++
  "         [-d] will decode the input file into the output file, and\n" ++
  "         [input] and [output] are the input and output files, respectively.\n"

/-- `usage(message)` -/
def usageMessage (message : String) : String :=
  usage ++ "Incorrect invocation of base64:\n" ++ message ++ "\n"

structure MainResult (ι : Type) where
  status : ExitStatus
  stderr : String
  files : FileSystem String ι Byte

/-- The early returns of `main`. -/
def MainResult.incorrect (files : FileSystem String ι Byte) (message : String) :
    MainResult ι where
  status := .exited 1
  stderr := usageMessage message
  files

/-- What follows the stream function in `main`, or does not if that throws. -/
def surfaceFailure (files : FileSystem String ι Byte) (outstream : OutStream ι) (thrown : Bool)
    (ostreamOut : List Byte) : MainResult ι :=
  if thrown then
    { status := .terminated, stderr := "", files }
  else
    let (files, outstream) := files.write outstream ostreamOut
    if outstream.good then
      { status := .exited 0, stderr := "", files }
    else
      { status := .exited 1, stderr := "base64: error writing output file!\n", files }

/-- `main`; the `ifstream` reads what the input file holds once both files are open. -/
def base64Main (env : ProgramEnv T) (files : FileSystem String ι Byte) (argv : List String) :
    MainResult ι :=
  match argv with
  | [_] => { status := .exited (-1), stderr := usage, files }
  | [_, choice, input, output] =>
    if choice ≠ "-e" ∧ choice ≠ "-d" then
      .incorrect files "Please specify -d or -e as first argument!"
    else if input = output then
      .incorrect files "Input and output must be different files!"
    else
      match files.openIn (env.mayRead input) input with
      | none => .incorrect files "Could not open input file!"
      | some instream =>
        match files.openOut (env.mayWrite output) env.room output with
        | none => .incorrect files "Could not open output file!"
        | some (files, outstream) =>
          let istreamIn := (files.contents instream).getD []
          if choice = "-d" then
            let r := (decoderBuilder env.newArray).build.decodeStream env.decodeSimd [] env.contents
              istreamIn
            surfaceFailure files outstream r.thrown r.ostreamOut
          else
            let r := (encoderBuilder env.newArray).build.encodeStream env.encodeSimd [] istreamIn
            surfaceFailure files outstream r.thrown r.ostreamOut
  | _ => .incorrect files "Wrong number of arguments!"

end Libb64
