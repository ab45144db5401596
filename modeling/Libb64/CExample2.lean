import Libb64.Base64
import Libb64.Cdecode
import Libb64.Cencode

/-!
# The file example, `c-example2.c`

The program encodes its first file into its second, block by block, and decodes the second into its
third. It looks at no return value but those of `fopen`: a write that fails goes unnoticed, and two
names for one file are not told apart. The blocks are taken to be obtained, and a file is read to
its end without an error.
-/

namespace Libb64

namespace CExample2

open FileSystem

variable {T : Target} {ι : Type} [DecidableEq ι]

def SIZE : Nat := 100

/-- The loop of `encode`: the state it leaves and the block calls it makes. -/
def encodeLoop (simd : Base64EncodeBulkSimd) (inputFile : List Byte) (es : Base64EncodeState T) :
    Base64EncodeState T × List (Base64EncodeResult T) :=
  let input := inputFile.take SIZE
  if _h : input.length = 0 then
    (es, [])
  else
    let r := base64EncodeBlock simd input es
    let (es, rest) := encodeLoop simd (inputFile.drop SIZE) r.state
    (es, r :: rest)
termination_by inputFile.length
decreasing_by
  rw [List.length_take] at _h
  rw [List.length_drop]
  unfold SIZE at *
  omega

/-- `encode`: the calls made, each storing to the start of `encoded`. -/
def encode (simd : Base64EncodeBulkSimd) (inputFile : List Byte) : List (Base64EncodeResult T) :=
  let es : Base64EncodeState T := { base64InitEncodestate T with charsPerLine := 72 }
  let (es, calls) := encodeLoop simd inputFile es
  calls ++ [base64EncodeBlockend es]

/-- The loop of `decode`: the block `decoded` and what was passed to `fwrite`. -/
def decodeLoop (T : Target) (simd : Base64DecodeBulkSimd) (inputFile : List Byte)
    (decoded : OutBuf Byte) (ds : Base64DecodeState) : OutBuf Byte × List (List Byte) :=
  let encoded := inputFile.take SIZE
  if _h : encoded.length = 0 then
    (decoded, [])
  else
    let r := base64DecodeBlock T simd encoded 0 decoded ds
    let (decoded, rest) := decodeLoop T simd (inputFile.drop SIZE) r.plaintextOut r.state
    (decoded, r.plaintextOut.slice 0 r.returned :: rest)
termination_by inputFile.length
decreasing_by
  rw [List.length_take] at _h
  rw [List.length_drop]
  unfold SIZE at *
  omega

def decode (T : Target) (simd : Base64DecodeBulkSimd) (contents : Nat → Byte)
    (inputFile : List Byte) : OutBuf Byte × List (List Byte) :=
  decodeLoop T simd inputFile (.fresh contents) base64InitDecodestate

structure Env where
  encodeSimd : Base64EncodeBulkSimd
  decodeSimd : Base64DecodeBulkSimd
  contents : Nat → Byte
  mayRead : String → Bool
  mayWrite : String → Bool
  encodedRoom : Nat
  decodedRoom : Nat
  strerror : String → String

/-- How the program ends, what it prints and the files it leaves; and what its block calls stored in
`encoded` and to which indices of `decoded`. -/
structure Result (ι : Type) where
  status : ExitStatus
  printed : String
  files : FileSystem String ι Byte
  encodedStores : List (List Byte)
  decodedStores : List Nat

/-- `perror(name)` and `exit(1)` -/
def failed (env : Env) (files : FileSystem String ι Byte) (encodedStores : List (List Byte))
    (name : String) : Result ι where
  status := .exited 1
  printed := name ++ ": " ++ env.strerror name ++ "\n"
  files
  encodedStores
  decodedStores := []

def main (T : Target) (env : Env) (files : FileSystem String ι Byte) (argv : List String) :
    Result ι :=
  match argv with
  | _ :: input :: encoded :: decoded :: _ =>
    match files.openIn (env.mayRead input) input with
    | none => failed env files [] input
    | some inputFile =>
      match files.openOut (env.mayWrite encoded) env.encodedRoom encoded with
      | none => failed env files [] encoded
      | some (files, encodedFile) =>
        let calls : List (Base64EncodeResult T) :=
          encode env.encodeSimd ((files.contents inputFile).getD [])
        let files :=
          (files.writeAll encodedFile (calls.map fun r => r.codeOut.take r.returned)).1
        let encodedStores := calls.map (·.codeOut)
        match files.openIn (env.mayRead encoded) encoded with
        | none => failed env files encodedStores encoded
        | some encodedFile =>
          match files.openOut (env.mayWrite decoded) env.decodedRoom decoded with
          | none => failed env files encodedStores decoded
          | some (files, decodedFile) =>
            let (buf, chunks) :=
              decode T env.decodeSimd env.contents ((files.contents encodedFile).getD [])
            { status := .exited 0
              printed := ""
              files := (files.writeAll decodedFile chunks).1
              encodedStores
              decodedStores := buf.stores }
  | _ =>
    { status := .exited (-1)
      printed := "please supply three filenames: input, encoded & decoded\n"
      files
      encodedStores := []
      decodedStores := [] }

end CExample2

end Libb64
