import Libb64.CExample1
import Libb64.CExample2
import Libb64.Verify.Balloc
import Libb64.Verify.Base64
import Libb64.Verify.Scratch

/-!
# How far the examples can be trusted

The first example puts its texts into blocks of a fixed size. They are large enough for strings of
at most 72 bytes and for texts of at most 133 alphabet characters, no more (`example1_limits`). The
second works block by block and stays within its blocks whatever the files hold; it gives the bytes
back unless two of its names lead to one file or a device is full, and in both cases it reports
success (`example2_limits`).
-/

namespace Libb64

open BitString Rfc4648 Lines FileSystem

variable {T : Target}

/-! ## The string example -/

section Strings

theorem string_eq {output : OutBuf Byte} {text : List Byte} (hlen : text.length < CExample1.SIZE)
    (hslice : output.slice 0 text.length = text) (hend : output.read text.length = 0)
    (hzero : 0 ∉ text) : CExample1.string output = text := by
  have hsize : CExample1.SIZE = text.length + (CExample1.SIZE - text.length - 1 + 1) := by omega
  have hall : ∀ b ∈ text, (decide (b ≠ 0)) = true := by
    intro b hb
    rw [decide_eq_true_eq]
    rintro rfl
    exact hzero hb
  rw [CExample1.string, hsize, OutBuf.slice_append, hslice, OutBuf.slice_succ, Nat.zero_add, hend,
    List.takeWhile_append_of_pos hall, List.takeWhile_cons_of_neg (by simp), List.append_nil]

/-- **The block of `encode`** holds the encoding and the zero behind it. -/
theorem example1_encode_eq (simd : Base64EncodeBulkSimd) (contents : Nat → Byte)
    (input : List Byte) :
    CExample1.encode T simd contents input =
      ((OutBuf.fresh contents).storeList 0 (encode input)).store (encode input).length 0 := by
  have hret := base64EncodeBlock_returned simd input (base64InitEncodestate T)
  have hblock := encode_unwrapped (T := T) simd input
  dsimp only at hblock
  rw [← hblock, OutBuf.storeList_append, Nat.zero_add, List.length_append]
  unfold CExample1.encode
  dsimp only
  rw [hret, blockend_returned]

theorem example1_encode_inBounds_iff (simd : Base64EncodeBulkSimd) (contents : Nat → Byte)
    (input : List Byte) :
    CExample1.InBounds (CExample1.encode T simd contents input) ↔ input.length ≤ 72 := by
  have hlen := length_encode input
  have hend : CExample1.InBounds (CExample1.encode T simd contents input) ↔
      (encode input).length < CExample1.SIZE := by
    rw [example1_encode_eq]
    unfold CExample1.InBounds
    simp only [OutBuf.stores_store, List.mem_cons, OutBuf.mem_stores_storeList,
      OutBuf.stores_fresh, List.not_mem_nil, false_or, Nat.zero_add]
    constructor
    · intro h
      exact h _ (.inl rfl)
    · rintro h j (rfl | ⟨-, hj⟩)
      · exact h
      · omega
  rw [hend, hlen, CExample1.SIZE]
  omega

theorem example1_decode_inBounds_iff (simd : Base64DecodeBulkSimd) (contents : Nat → Byte)
    (text : List Byte) :
    CExample1.InBounds (CExample1.decode T simd contents text) ↔ text.countP inAlphabet ≤ 133 := by
  have hspec := base64DecodeBlock_spec T simd (q := []) (.inl rfl) text 0 (.fresh contents)
  rw [carried_nil] at hspec
  have hret := hspec.output.1
  rw [List.nil_append, length_bits, length_sextets] at hret
  have hend : CExample1.InBounds (CExample1.decode T simd contents text) ↔
      6 * text.countP inAlphabet / 8 < CExample1.SIZE := by
    rw [← hret]
    unfold CExample1.InBounds CExample1.decode
    simp only [OutBuf.stores_store, List.mem_cons]
    constructor
    · intro h
      exact h _ (.inl rfl)
    · rintro h j (rfl | hj)
      · exact h
      · exact Nat.lt_of_le_of_lt (hspec.stores_fresh (.inl rfl) j hj).1 h
  rw [hend, CExample1.SIZE]
  omega

theorem example1_encode_string (simd : Base64EncodeBulkSimd) (contents : Nat → Byte)
    {input : List Byte} (hlen : input.length ≤ 72) :
    CExample1.string (CExample1.encode T simd contents input) = encode input := by
  have hencode := length_encode input
  rw [example1_encode_eq]
  refine string_eq (by rw [CExample1.SIZE]; omega) ?_ (OutBuf.read_store_self ..)
    (zero_notMem_encode input)
  refine Eq.trans ?_ (OutBuf.slice_storeList (OutBuf.fresh contents) 0 (encode input))
  apply OutBuf.slice_congr
  intro j _ hj
  exact OutBuf.read_store_of_ne _ _ (by omega)

theorem example1_decode_string (simd : Base64DecodeBulkSimd) (contents : Nat → Byte)
    {text : List Byte} (hlen : (decode text).length < CExample1.SIZE) (hzero : 0 ∉ decode text) :
    CExample1.string (CExample1.decode T simd contents text) = decode text := by
  have hspec := base64DecodeBlock_spec T simd (q := []) (.inl rfl) text 0 (.fresh contents)
  rw [carried_nil] at hspec
  obtain ⟨hret, hslice⟩ := hspec.output
  have hdecode : (decode text).length = (base64DecodeBlock T simd text 0 (.fresh contents)
      base64InitDecodestate).returned := by
    rw [hret, List.nil_append, ← length_groups]
    rfl
  refine string_eq hlen ?_ ?_ hzero
  · rw [hdecode]
    refine Eq.trans (OutBuf.slice_congr fun j _ hj => ?_) hslice
    exact OutBuf.read_store_of_ne _ _ (by omega)
  · rw [hdecode]
    exact OutBuf.read_store_self ..

/-- **The exact limits of the string example**, on every target and path, and the round trip within
them. -/
theorem example1_limits (T : Target) (encodeSimd : Base64EncodeBulkSimd)
    (decodeSimd : Base64DecodeBulkSimd) (contents contents' : Nat → Byte) :
    (∀ input, CExample1.InBounds (CExample1.encode T encodeSimd contents input) ↔
        input.length ≤ 72) ∧
      (∀ text, CExample1.InBounds (CExample1.decode T decodeSimd contents' text) ↔
        text.countP inAlphabet ≤ 133) ∧
      ∀ input, input.length ≤ 72 → 0 ∉ input →
        let encoded := CExample1.string (CExample1.encode T encodeSimd contents input)
        CExample1.string (CExample1.decode T decodeSimd contents' encoded) = input := by
  refine ⟨example1_encode_inBounds_iff encodeSimd contents,
    example1_decode_inBounds_iff decodeSimd contents', ?_⟩
  intro input hlen hzero
  dsimp only
  have hlong : (decode (encode input)).length < CExample1.SIZE := by
    rw [decode_encode, CExample1.SIZE]
    omega
  rw [example1_encode_string encodeSimd contents hlen,
    example1_decode_string decodeSimd contents' hlong (by rwa [decode_encode]), decode_encode]

/-- The string of the example, for which its assertion holds. -/
theorem example1_limits_hello :
    let encoded := CExample1.string (CExample1.encode x86_64 encodeSimdNone (fun _ => 7)
      ("hello world".toList.map charCode))
    CExample1.string (CExample1.decode x86_64 decodeSimdNone (fun _ => 7) encoded) =
      "hello world".toList.map charCode :=
  (example1_limits x86_64 encodeSimdNone decodeSimdNone (fun _ => 7) fun _ => 7).2.2
    ("hello world".toList.map charCode) (by decide) (by decide)

end Strings

/-! ## The file example -/

section Files

variable {ι : Type} [DecidableEq ι]

/-- **The loop of `encode`** is some division of the file into block calls, each of which fits. -/
theorem example2_encodeLoop (simd : Base64EncodeBulkSimd) (inputFile : List Byte)
    (es : Base64EncodeState T) :
    let r := CExample2.encodeLoop simd inputFile es
    (∃ blocks, plaintextOf blocks = inputFile ∧
      (r.1, r.2.flatMap (·.codeOut)) = (encodeCalls T).run es blocks) ∧
    ∀ call ∈ r.2, call.returned = call.codeOut.length ∧
      call.codeOut.length ≤ encodedLength es.charsPerLine.toNat CExample2.SIZE := by
  induction hn : inputFile.length using Nat.strongRecOn generalizing inputFile es with
  | _ n ih =>
    rw [CExample2.encodeLoop]
    dsimp only
    split
    · next hempty =>
      rw [List.length_take, CExample2.SIZE] at hempty
      have hnil : inputFile = [] := List.length_eq_zero_iff.mp (by omega)
      exact ⟨⟨[], hnil.symm, rfl⟩, fun call hcall => by cases hcall⟩
    · next hsome =>
      have hlt : (inputFile.drop CExample2.SIZE).length < n := by
        rw [List.length_take] at hsome
        rw [List.length_drop, ← hn]
        unfold CExample2.SIZE at *
        omega
      have hle : (inputFile.take CExample2.SIZE).length ≤ CExample2.SIZE :=
        List.length_take_le ..
      have hfits := blockLength_le es hle
      rw [← length_encodeBlock simd] at hfits
      obtain ⟨⟨blocks, hblocks, hrun⟩, hcalls⟩ := ih _ hlt _
        (base64EncodeBlock simd (inputFile.take CExample2.SIZE) es).state rfl
      rw [base64EncodeBlock_charsPerLine] at hcalls
      refine ⟨⟨⟨simd, inputFile.take CExample2.SIZE⟩ :: blocks, ?_, ?_⟩, ?_⟩
      · rw [plaintextOf, List.flatMap_cons, ← plaintextOf, hblocks, List.take_append_drop]
      · rw [Transducer.run_cons, List.flatMap_cons]
        rw [encodeCalls_step, ← hrun]
      · intro call hcall
        rcases List.mem_cons.mp hcall with rfl | hcall
        · exact ⟨base64EncodeBlock_returned simd _ es, hfits⟩
        · exact hcalls call hcall

/-- **`encode`** writes the encoding in lines of 72 characters, at most 138 bytes at a time. -/
theorem example2_encode (simd : Base64EncodeBulkSimd) (inputFile : List Byte) :
    let calls : List (Base64EncodeResult T) := CExample2.encode simd inputFile
    (calls.map fun r => r.codeOut.take r.returned).flatten =
        layout newline 72 (encode inputFile) ∧
      ∀ call ∈ calls, call.codeOut.length ≤ 138 := by
  have hwidth : (freshEncodestate (T := T) 72).charsPerLine.toNat = 72 :=
    toNat_ofNat_of_lt (by decide)
  obtain ⟨⟨blocks, hblocks, hrun⟩, hcalls⟩ :=
    example2_encodeLoop simd inputFile (freshEncodestate (T := T) 72)
  have hlast := blockendLength_le (CExample2.encodeLoop simd inputFile
    (freshEncodestate (T := T) 72)).1
  have hkept : (CExample2.encodeLoop simd inputFile (freshEncodestate (T := T) 72)).1.charsPerLine =
      (freshEncodestate (T := T) 72).charsPerLine := by
    have hkept := encodeCalls_charsPerLine (freshEncodestate (T := T) 72) blocks
    rw [← hrun] at hkept
    exact hkept
  rw [hkept, hwidth, ← length_encodeBlockend] at hlast
  have hsession := encodeSession_eq (T := T) 72 blocks
  rw [encodeSession, encodeFrom_run, ← hrun, hblocks] at hsession
  dsimp only at hsession
  have hall : ∀ call ∈ (CExample2.encode simd inputFile : List (Base64EncodeResult T)),
      call.returned = call.codeOut.length ∧ call.codeOut.length ≤ 138 := by
    intro call hcall
    rcases List.mem_append.mp hcall with hcall | hcall
    · obtain ⟨hret, hle⟩ := hcalls call hcall
      rw [hwidth] at hle
      exact ⟨hret, hle⟩
    · rw [List.mem_singleton.mp hcall]
      exact ⟨rfl, Nat.le_trans hlast (by decide)⟩
  refine ⟨?_, fun call hcall => (hall call hcall).2⟩
  have hwhole : ∀ call ∈ (CExample2.encode simd inputFile : List (Base64EncodeResult T)),
      call.codeOut.take call.returned = call.codeOut := by
    intro call hcall
    rw [(hall call hcall).1, List.take_length]
  rw [List.map_congr_left hwhole, ← List.flatMap_def]
  rw [show (72 : T.SizeT).toNat = 72 from hwidth] at hsession
  rw [← hsession, CExample2.encode]
  simp [freshEncodestate]

/-- **The loop of `decode`** writes what the file decodes to and stays within its block. -/
theorem example2_decodeLoop (T : Target) (simd : Base64DecodeBulkSimd) (inputFile : List Byte)
    {q : List Bool} (hq : Carriable q) (decoded : OutBuf Byte) :
    let r := CExample2.decodeLoop T simd inputFile decoded (carried q)
    r.2.flatten = groups 8 (q ++ bits inputFile) ∧
      ∀ j ∈ r.1.stores, j ∈ decoded.stores ∨ j < CExample2.SIZE := by
  induction hn : inputFile.length using Nat.strongRecOn generalizing inputFile q decoded with
  | _ n ih =>
    rw [CExample2.decodeLoop]
    dsimp only
    split
    · next hempty =>
      rw [List.length_take, CExample2.SIZE] at hempty
      have hnil : inputFile = [] := List.length_eq_zero_iff.mp (by omega)
      have hlt : q.length < 8 := hq.length_lt
      refine ⟨?_, fun j hj => .inl hj⟩
      rw [hnil, bits_nil, List.append_nil, groups_of_lt hlt, List.flatten_nil]
    · next hsome =>
      have hlt : (inputFile.drop CExample2.SIZE).length < n := by
        rw [List.length_take] at hsome
        rw [List.length_drop, ← hn]
        unfold CExample2.SIZE at *
        omega
      have hle : (inputFile.take CExample2.SIZE).length ≤ CExample2.SIZE :=
        List.length_take_le ..
      have hspec := base64DecodeBlock_spec T simd hq (inputFile.take CExample2.SIZE) 0 decoded
      obtain ⟨hbytes, hstores⟩ := ih _ hlt (inputFile.drop CExample2.SIZE)
        (hq.rest (inputFile.take CExample2.SIZE)) (base64DecodeBlock T simd
          (inputFile.take CExample2.SIZE) 0 decoded (carried q)).plaintextOut rfl
      rw [← hspec.state] at hbytes hstores
      refine ⟨?_, ?_⟩
      · rw [List.flatten_cons, hbytes, hspec.output.2, ← groups_append (by decide),
          List.append_assoc, ← bits_append, List.take_append_drop]
      · intro j hj
        rcases hstores j hj with hj | hj
        · rcases hspec.decoded.stores j hj with hj | ⟨-, -, hj⟩
          · exact .inl hj
          · right
            unfold Carriable at hq
            unfold CExample2.SIZE at *
            omega
        · exact .inr hj

/-- The names can be opened one after the other. -/
structure CExample2.Opens (env : CExample2.Env) (files : FileSystem String ι Byte)
    (input encoded decoded : String) : Prop where
  readable : (files.contents (files.resolve input)).isSome ∧ env.mayRead input = true
  writable : env.mayWrite encoded = true
  readableBack : env.mayRead encoded = true
  writableLast : env.mayWrite decoded = true

section Main

variable {env : CExample2.Env} {files : FileSystem String ι Byte}
  {input encoded decoded : String}

/-- **A run that can open its files**, and what it leaves in the last. -/
theorem example2_opens (T : Target) (program : String) (rest : List String)
    (h : CExample2.Opens env files input encoded decoded) :
    let r := CExample2.main T env files (program :: input :: encoded :: decoded :: rest)
    let written :=
      (layout newline 72 (encode (leftToRead files input encoded))).take env.encodedRoom
    let readBack := if files.resolve encoded = files.resolve decoded then [] else written
    r.status = .exited 0 ∧ (∀ stored ∈ r.encodedStores, stored.length ≤ 2 * CExample2.SIZE) ∧
      (∀ j ∈ r.decodedStores, j < CExample2.SIZE) ∧
      r.files.contents (files.resolve decoded) =
        some ((decode readBack).take env.decodedRoom) := by
  obtain ⟨hreadable, hwritable, hback, hlast⟩ := h
  have hin : files.openIn (env.mayRead input) input = some _ :=
    openIn_eq_some_iff.mpr ⟨hreadable, rfl⟩
  have hout : files.openOut (env.mayWrite encoded) env.encodedRoom encoded = some _ :=
    openOut_eq_some_iff.mpr ⟨hwritable, rfl⟩
  simp only [CExample2.main, hin, hout, leftToRead_eq]
  obtain ⟨htext, hfits⟩ :=
    example2_encode (T := T) env.encodeSimd (leftToRead files input encoded)
  have hwritten := (Written.opened files (files.resolve encoded) env.encodedRoom).writeAll
    ((CExample2.encode (T := T) env.encodeSimd (leftToRead files input encoded)).map
      fun r => r.codeOut.take r.returned)
  rw [htext, List.nil_append] at hwritten
  rw [hwritten.files_eq]
  generalize (layout newline 72 (encode (leftToRead files input encoded))).take
    env.encodedRoom = written
  have hin' : (files.put (files.resolve encoded) written).openIn (env.mayRead encoded) encoded =
      some _ :=
    openIn_eq_some_iff.mpr ⟨⟨by rw [resolve_put, contents_put_same]; rfl, hback⟩, rfl⟩
  have hout' : (files.put (files.resolve encoded) written).openOut (env.mayWrite decoded)
      env.decodedRoom decoded = some _ :=
    openOut_eq_some_iff.mpr ⟨hlast, rfl⟩
  simp only [hin', hout', leftToRead_eq]
  have hleft : leftToRead (files.put (files.resolve encoded) written) encoded decoded =
      if files.resolve encoded = files.resolve decoded then [] else written := by
    rw [leftToRead, resolve_put, contents_put_same, Option.getD_some]
  rw [hleft]
  generalize (if files.resolve encoded = files.resolve decoded then [] else written) = readBack
  obtain ⟨hbytes, hstores⟩ := example2_decodeLoop T env.decodeSimd readBack (q := []) (.inl rfl)
    (.fresh env.contents)
  rw [carried_nil] at hbytes hstores
  have hdecoded := (Written.opened (files.put (files.resolve encoded) written)
    (files.resolve decoded) env.decodedRoom).writeAll
      (CExample2.decode T env.decodeSimd env.contents readBack).2
  rw [CExample2.decode, hbytes, List.nil_append, List.nil_append] at hdecoded
  refine ⟨trivial, ?_, ?_, ?_⟩
  · intro stored hstored
    obtain ⟨call, hcall, rfl⟩ := List.mem_map.mp hstored
    exact Nat.le_trans (hfits call hcall) (by decide)
  · intro j hj
    exact (hstores j hj).resolve_left (by simp)
  · rw [CExample2.decode, resolve_put, hdecoded.files_eq, contents_put_same]
    rfl

omit [DecidableEq ι] in
theorem example2_failed (env : CExample2.Env) (files : FileSystem String ι Byte) (name : String)
    {encodedStores : List (List Byte)}
    (h : ∀ stored ∈ encodedStores, stored.length ≤ 2 * CExample2.SIZE) :
    let r := CExample2.failed env files encodedStores name
    r.status ≠ .exited 0 ∧ (∀ stored ∈ r.encodedStores, stored.length ≤ 2 * CExample2.SIZE) ∧
      ∀ j ∈ r.decodedStores, j < CExample2.SIZE :=
  ⟨failed_ne_success, h, fun _ hj => nomatch hj⟩

/-- **A run that cannot open its files**, or has too few names. -/
theorem example2_not_opens (T : Target) (argv : List String)
    (h : ∀ program input encoded decoded rest,
      argv = program :: input :: encoded :: decoded :: rest →
        ¬CExample2.Opens env files input encoded decoded) :
    let r := CExample2.main T env files argv
    r.status ≠ .exited 0 ∧ (∀ stored ∈ r.encodedStores, stored.length ≤ 2 * CExample2.SIZE) ∧
      ∀ j ∈ r.decodedStores, j < CExample2.SIZE := by
  unfold CExample2.main
  split
  · next program input encoded decoded rest =>
    have hno := h program input encoded decoded rest rfl
    cases hin : files.openIn (env.mayRead input) input with
    | none => exact example2_failed env files input fun _ hstored => nomatch hstored
    | some inputFile =>
      cases hout : files.openOut (env.mayWrite encoded) env.encodedRoom encoded with
      | none => exact example2_failed env files encoded fun _ hstored => nomatch hstored
      | some opened =>
        obtain ⟨files', encodedFile⟩ := opened
        obtain ⟨-, hfits⟩ := example2_encode (T := T) env.encodeSimd
          ((files'.contents inputFile).getD [])
        have hstores : ∀ stored ∈ ((CExample2.encode env.encodeSimd
            ((files'.contents inputFile).getD []) : List (Base64EncodeResult T)).map (·.codeOut)),
            stored.length ≤ 2 * CExample2.SIZE := by
          intro stored hstored
          obtain ⟨call, hcall, rfl⟩ := List.mem_map.mp hstored
          exact Nat.le_trans (hfits call hcall) (by decide)
        dsimp only
        split
        · exact example2_failed env _ encoded hstores
        · next hback =>
          split
          · exact example2_failed env _ decoded hstores
          · next hlast =>
            exact absurd ⟨(openIn_eq_some_iff.mp hin).1, (openOut_eq_some_iff.mp hout).1,
              (openIn_eq_some_iff.mp hback).1.2, (openOut_eq_some_iff.mp hlast).1⟩ hno
  · refine ⟨by simp, ?_, ?_⟩
    · intro stored hstored
      cases hstored
    · intro j hj
      cases hj

end Main

theorem decode_layout (c : Nat) (x : List Byte) : decode (layout newline c (encode x)) = x := by
  rw [decode, sextets_layout, ← decode, decode_encode]

/-- Of the text of an empty file nothing is decoded. -/
theorem decode_take_layout_nil (n : Nat) :
    decode ((layout newline 72 (encode [])).take n) = [] := by
  have hline : layout newline 72 (encode []) = [newline] := by
    rw [encode_nil]
    rfl
  rw [hline]
  cases n with
  | zero => exact decode_nil
  | succ n =>
    rw [List.take_succ_cons, List.take_nil, decode, sextets_cons_of_none newline_not_alphabet]
    exact decode_nil

/-- **The file example in whole**: it stays within its blocks and reports success exactly if its
files can be opened, whatever the devices take; where they take everything, the last file gets the
bytes of the first back, unless two names that follow each other lead to the same file, which loses
all bytes. -/
theorem example2_limits (T : Target) (env : CExample2.Env) (files : FileSystem String ι Byte)
    (argv : List String) :
    let r := CExample2.main T env files argv
    (∀ stored ∈ r.encodedStores, stored.length ≤ 2 * CExample2.SIZE) ∧
    (∀ j ∈ r.decodedStores, j < CExample2.SIZE) ∧
    (r.status = .exited 0 ↔ ∃ program input encoded decoded rest,
      argv = program :: input :: encoded :: decoded :: rest ∧
        CExample2.Opens env files input encoded decoded) ∧
    ∀ program input encoded decoded rest bytes,
      argv = program :: input :: encoded :: decoded :: rest → r.status = .exited 0 →
      files.contents (files.resolve input) = some bytes →
      (layout newline 72 (encode bytes)).length ≤ env.encodedRoom →
      bytes.length ≤ env.decodedRoom →
      (r.files.contents (files.resolve decoded) = some bytes ↔
        bytes = [] ∨ files.resolve input ≠ files.resolve encoded ∧
          files.resolve encoded ≠ files.resolve decoded) := by
  by_cases hopens : ∃ program input encoded decoded rest,
      argv = program :: input :: encoded :: decoded :: rest ∧
        CExample2.Opens env files input encoded decoded
  · obtain ⟨program, input, encoded, decoded, rest, rfl, hopens⟩ := hopens
    obtain ⟨hstatus, hencoded, hdecoded, hcontents⟩ :=
      example2_opens T program rest hopens
    refine ⟨hencoded, hdecoded,
      iff_of_true hstatus ⟨program, input, encoded, decoded, rest, rfl, hopens⟩, ?_⟩
    rintro program' input' encoded' decoded' rest' bytes hargv - hbytes hroom hroom'
    cases hargv
    rw [hcontents, Option.some.injEq, leftToRead, hbytes, Option.getD_some]
    by_cases hfirst : files.resolve input = files.resolve encoded
    · have hnothing : decode (if files.resolve encoded = files.resolve decoded then []
          else (layout newline 72 (encode [])).take env.encodedRoom) = [] := by
        split
        · exact decode_nil
        · exact decode_take_layout_nil _
      rw [if_pos hfirst, hnothing, List.take_nil]
      simp [hfirst, eq_comm]
    · rw [if_neg hfirst, List.take_of_length_le hroom]
      by_cases hsecond : files.resolve encoded = files.resolve decoded
      · rw [if_pos hsecond, decode_nil, List.take_nil]
        simp [hsecond, eq_comm]
      · rw [if_neg hsecond, decode_layout, List.take_of_length_le hroom']
        exact iff_of_true rfl (.inr ⟨hfirst, hsecond⟩)
  · have hno : ∀ program input encoded decoded rest,
        argv = program :: input :: encoded :: decoded :: rest →
          ¬CExample2.Opens env files input encoded decoded :=
      fun program input encoded decoded rest hargv h =>
        hopens ⟨program, input, encoded, decoded, rest, hargv, h⟩
    obtain ⟨hstatus, hencoded, hdecoded⟩ := example2_not_opens T argv hno
    exact ⟨hencoded, hdecoded, iff_of_false hstatus hopens,
      fun _ _ _ _ _ _ _ hsuccess => absurd hsuccess hstatus⟩

/-- A run on three files, the devices taking just enough. -/
theorem example2_limits_foo :
    let env : CExample2.Env :=
      { encodeSimd := encodeSimdNone, decodeSimd := decodeSimdNone, contents := fun _ => 7,
        mayRead := fun _ => true, mayWrite := fun _ => true, encodedRoom := 5, decodedRoom := 3,
        strerror := fun _ => "" }
    let files : FileSystem String Nat Byte :=
      { resolve := String.length
        contents := fun n => if n = 1 then some ("foo".toList.map charCode) else none }
    let r := CExample2.main i386 env files ["c-example2", "a", "bb", "ccc"]
    r.files.contents 3 = some ("foo".toList.map charCode) ↔
      "foo".toList.map charCode = [] ∨ 1 ≠ 2 ∧ 2 ≠ 3 := by
  intro env files r
  exact (example2_limits i386 env files ["c-example2", "a", "bb", "ccc"]).2.2.2 "c-example2" "a"
    "bb" "ccc" [] ("foo".toList.map charCode) rfl (by decide +kernel) rfl (by decide +kernel)
    (by decide)

end Files

end Libb64
