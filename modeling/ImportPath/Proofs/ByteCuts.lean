import Mathlib.Data.List.TakeWhile
import ImportPath.Text.Bytes
import ImportPath.Proofs.RelativePath

/-!
# Cuts at byte offsets never fail

The functions that cut texts find their offsets by different searches: the last `/` or `.`
of a name, the end of a rule's source, a run of ASCII digits after a backslash, the first
or second `/` of a package name, the common prefix of two component lists. Each offset is
the byte size of the characters before some character, so it is a character boundary; and
the offsets of a cut are in order. Hence every cut succeeds, and what it cuts is what the
functions on characters compute. The drive test reads three bytes only when the text has
them, and reads in the first byte of a character the answer the character gives to every
ASCII test.

## What this module delivers

- `byteLength`, the bytes of a list of characters, and `byteSlice?_of_toList`: cutting a
  text at the byte sizes of its parts gives the part between them.
- `charIndicesFrom_eq_map_zipIdx` and `rfindByte?_eq_dropWhile`: the offsets the searches
  find, as byte sizes of what precedes them.
- `utf8EncodeChar_head`: the first byte of a character answers the ASCII tests as it does.
- One equation per cutting function, and `byte_cuts_never_fail`, which gathers them.
-/

namespace ImportPath

/-! ## Byte sizes and cuts -/

/-- The bytes the characters of a list take in UTF-8. -/
def byteLength : List Char → Nat
  | [] => 0
  | c :: cs => c.utf8Size + byteLength cs

@[simp] theorem byteLength_nil : byteLength [] = 0 := rfl

@[simp] theorem byteLength_cons (c : Char) (cs : List Char) :
    byteLength (c :: cs) = c.utf8Size + byteLength cs := rfl

@[simp] theorem byteLength_append (l m : List Char) :
    byteLength (l ++ m) = byteLength l + byteLength m := by
  induction l with
  | nil => simp
  | cons c cs ih => simp [ih, Nat.add_assoc]

/-- Only the empty list takes no byte. -/
theorem byteLength_eq_zero_iff {cs : List Char} : byteLength cs = 0 ↔ cs = [] := by
  cases cs with
  | nil => simp
  | cons c cs =>
    have := Char.utf8Size_pos c
    simp only [byteLength_cons, reduceCtorEq, iff_false]
    omega

theorem utf8ByteSize_ofList (cs : List Char) : (String.ofList cs).utf8ByteSize = byteLength cs := by
  induction cs with
  | nil => rfl
  | cons c cs ih =>
    simp [String.ofList_cons, String.utf8ByteSize_append, String.utf8ByteSize_singleton, ih]

theorem utf8ByteSize_eq_byteLength (s : String) : s.utf8ByteSize = byteLength s.toList := by
  rw [← utf8ByteSize_ofList, String.ofList_toList]

theorem pos?_of_isValid {s : String} {off : String.Pos.Raw} (h : off.IsValid s) :
    s.pos? off = some (s.pos off h) := by
  simp [String.pos?, String.Slice.pos?, String.pos, h]

theorem rawEndPos_ofList (cs : List Char) : (String.ofList cs).rawEndPos = ⟨byteLength cs⟩ := by
  rw [String.Pos.Raw.ext_iff, String.byteIdx_rawEndPos, utf8ByteSize_ofList]

/-- Cutting a text at the byte sizes of a prefix and of the prefix with a middle part gives
that part. -/
theorem byteSlice?_of_toList {s : String} {pre mid post : List Char}
    (h : s.toList = pre ++ mid ++ post) :
    byteSlice? s (byteLength pre) (byteLength pre + byteLength mid) = some (String.ofList mid) := by
  have hs : s = String.ofList pre ++ (String.ofList mid ++ String.ofList post) := by
    rw [← String.toList_inj]
    simp [h]
  have hs' : s = (String.ofList pre ++ String.ofList mid) ++ String.ofList post := by
    rw [hs, String.append_assoc]
  have hmid : (String.ofList pre ++ String.ofList mid).rawEndPos =
      ⟨byteLength pre + byteLength mid⟩ := by
    rw [← String.ofList_append, rawEndPos_ofList, byteLength_append]
  -- both offsets end a prefix of the text, so both are boundaries, and the text splits there
  have ha : (⟨byteLength pre⟩ : String.Pos.Raw).IsValid s :=
    String.Pos.Raw.isValid_iff_exists_append.2 ⟨_, _, hs, (rawEndPos_ofList pre).symm⟩
  have hb : (⟨byteLength pre + byteLength mid⟩ : String.Pos.Raw).IsValid s :=
    String.Pos.Raw.isValid_iff_exists_append.2 ⟨_, _, hs', hmid.symm⟩
  have hsplit₁ : (s.pos _ ha).Splits (String.ofList pre) (String.ofList mid ++ String.ofList post) :=
    ⟨hs, by rw [rawEndPos_ofList]; rfl⟩
  have hsplit₂ : (s.pos _ hb).Splits (String.ofList pre ++ String.ofList mid) (String.ofList post) :=
    ⟨hs', by rw [hmid]; rfl⟩
  obtain ⟨hle, hcopy⟩ := String.copy_slice_eq_iff_splits.2 ⟨_, _, hsplit₁, hsplit₂⟩
  simp [byteSlice?, pos?_of_isValid ha, pos?_of_isValid hb, String.slice?, hle, hcopy]

/-- Cutting from the end of a prefix to the end of the text gives the rest. -/
theorem byteSlice?_to_end {s : String} {pre post : List Char} (h : s.toList = pre ++ post) :
    byteSlice? s (byteLength pre) s.utf8ByteSize = some (String.ofList post) := by
  have hs : s.toList = pre ++ post ++ [] := by rw [h, List.append_nil]
  have := byteSlice?_of_toList hs
  rwa [utf8ByteSize_eq_byteLength, h, byteLength_append]

/-- Cutting from the start to the end of a prefix gives the prefix. -/
theorem byteSlice?_zero {s : String} {pre post : List Char} (h : s.toList = pre ++ post) :
    byteSlice? s 0 (byteLength pre) = some (String.ofList pre) := by
  have hs : s.toList = [] ++ pre ++ post := by rw [h, List.nil_append]
  simpa using byteSlice?_of_toList hs

/-- Cutting a text around its character at index `i`, given with its index. -/
theorem byteSlice?_around {s : String} {i : Nat} {c : Char} (hz : (c, i) ∈ s.toList.zipIdx) :
    byteSlice? s 0 (byteLength (s.toList.take i)) = some (String.ofList (s.toList.take i)) ∧
    byteSlice? s (byteLength (s.toList.take i) + c.utf8Size) s.utf8ByteSize =
      some (String.ofList (s.toList.drop (i + 1))) := by
  obtain ⟨hi, hc⟩ := List.mem_zipIdx' hz
  have hs : s.toList = s.toList.take i ++ c :: s.toList.drop (i + 1) := by
    rw [hc, List.getElem_cons_drop, List.take_append_drop]
  have hs' : s.toList = (s.toList.take i ++ [c]) ++ s.toList.drop (i + 1) := by
    rw [List.append_assoc]; exact hs
  refine ⟨byteSlice?_zero hs, ?_⟩
  simpa using byteSlice?_to_end hs'

/-! ## Offsets of characters -/

@[simp] theorem charIndicesFrom_nil (off : Nat) : charIndicesFrom off [] = [] := rfl

@[simp] theorem charIndicesFrom_cons (off : Nat) (c : Char) (cs : List Char) :
    charIndicesFrom off (c :: cs) = (off, c) :: charIndicesFrom (off + c.utf8Size) cs := rfl

theorem charIndicesFrom_append (off : Nat) (l m : List Char) :
    charIndicesFrom off (l ++ m) =
      charIndicesFrom off l ++ charIndicesFrom (off + byteLength l) m := by
  induction l generalizing off with
  | nil => simp
  | cons c cs ih => simp [ih, Nat.add_assoc]

@[simp] theorem map_snd_charIndicesFrom (off : Nat) (cs : List Char) :
    (charIndicesFrom off cs).map Prod.snd = cs := by
  induction cs generalizing off with
  | nil => rfl
  | cons c cs ih => simp [ih]

/-- The character at index `k` starts at the byte size of the `k` characters before it. -/
theorem charIndicesFrom_eq_map_zipIdx (off : Nat) (cs : List Char) :
    charIndicesFrom off cs = cs.zipIdx.map fun e => (off + byteLength (cs.take e.2), e.1) := by
  induction cs generalizing off with
  | nil => rfl
  | cons c cs ih =>
    rw [List.zipIdx_cons']
    simp [ih, Nat.add_assoc, Function.comp_def]

theorem takeWhile_charIndicesFrom (p : Char → Bool) (off : Nat) (cs : List Char) :
    (charIndicesFrom off cs).takeWhile (p ·.2) = charIndicesFrom off (cs.takeWhile p) := by
  induction cs generalizing off with
  | nil => rfl
  | cons c cs ih => by_cases h : p c <;> simp [h, ih]

theorem dropWhile_charIndicesFrom (p : Char → Bool) (off : Nat) (cs : List Char) :
    (charIndicesFrom off cs).dropWhile (p ·.2) =
      charIndicesFrom (off + byteLength (cs.takeWhile p)) (cs.dropWhile p) := by
  induction cs generalizing off with
  | nil => rfl
  | cons c cs ih => by_cases h : p c <;> simp [h, ih, Nat.add_assoc]

theorem getLast?_charIndicesFrom_concat (off : Nat) (cs : List Char) (c : Char) :
    (charIndicesFrom off (cs ++ [c])).getLast? = some (off + byteLength cs, c) := by
  simp [charIndicesFrom_append]

theorem find?_reverse_charIndicesFrom_none (p : Char → Bool) (off : Nat) {cs : List Char}
    (h : ∀ x ∈ cs, p x = false) : (charIndicesFrom off cs).reverse.find? (p ·.2) = none := by
  simp only [List.find?_eq_none, List.mem_reverse]
  intro e he
  have hmem : e.2 ∈ (charIndicesFrom off cs).map Prod.snd := List.mem_map_of_mem he
  rw [map_snd_charIndicesFrom] at hmem
  exact Bool.eq_false_iff.1 (h e.2 hmem)

/-- The last character of a list that passes `p` is found at the byte size of what precedes
it. -/
theorem find?_reverse_charIndicesFrom_last (p : Char → Bool) (off : Nat) {pre post : List Char}
    {c : Char} (hc : p c) (hpost : ∀ x ∈ post, p x = false) :
    (charIndicesFrom off (pre ++ c :: post)).reverse.find? (p ·.2) =
      some (off + byteLength pre, c) := by
  simp [charIndicesFrom_append, List.find?_append, find?_reverse_charIndicesFrom_none p _ hpost, hc]

/-- A list read from its end up to the first `c₀`: the part after its last `c₀`, and what
precedes that `c₀`. -/
theorem eq_append_of_reverse_dropWhile {l r : List Char} {c₀ d : Char}
    (h : l.reverse.dropWhile (· != c₀) = d :: r) :
    l = r.reverse ++ d :: (l.reverse.takeWhile (· != c₀)).reverse ∧ d = c₀ := by
  have hsplit : l.reverse.takeWhile (· != c₀) ++ l.reverse.dropWhile (· != c₀) = l.reverse :=
    List.takeWhile_append_dropWhile
  have hhead := List.head?_dropWhile_not (· != c₀) l.reverse
  rw [h] at hsplit hhead
  refine ⟨?_, by simpa using hhead⟩
  calc l = l.reverse.reverse := l.reverse_reverse.symm
    _ = (l.reverse.takeWhile (· != c₀) ++ d :: r).reverse := by rw [hsplit]
    _ = _ := by simp

/-- The byte offset of the last `c₀` of a text, read off the characters before it. -/
theorem rfindByte?_eq_dropWhile (s : String) (c₀ : Char) :
    rfindByte? s (· == c₀) = match s.toList.reverse.dropWhile (· != c₀) with
      | [] => none
      | _ :: r => some (byteLength r.reverse) := by
  split
  case h_1 h =>
    have hall : ∀ x ∈ s.toList, (x == c₀) = false := by
      intro x hx
      simpa using List.dropWhile_eq_nil_iff.1 h x (List.mem_reverse.2 hx)
    simp [rfindByte?, charIndices, find?_reverse_charIndicesFrom_none _ _ hall]
  case h_2 d r h =>
    obtain ⟨hs, rfl⟩ := eq_append_of_reverse_dropWhile h
    have hafter : ∀ x ∈ (s.toList.reverse.takeWhile (· != d)).reverse, (x == d) = false := by
      intro x hx
      simpa using List.mem_takeWhile_imp (List.mem_reverse.1 hx)
    rw [rfindByte?, charIndices, hs, find?_reverse_charIndicesFrom_last _ _ (by simp) hafter]
    simp

/-! ## First bytes of characters -/

/-- The first byte of the UTF-8 form of a character: the character's code for an ASCII
character, which takes no other byte, and at least `0xC0` for any other. -/
theorem utf8EncodeChar_eq_cons (c : Char) : ∃ b rest, String.utf8EncodeChar c = b :: rest ∧
    (c.toNat < 128 → b.toNat = c.toNat ∧ rest = []) ∧ (128 ≤ c.toNat → 192 ≤ b.toNat) := by
  have hc : c.val.toNat = c.toNat := rfl
  unfold String.utf8EncodeChar
  dsimp only
  rw [hc]
  split
  case isTrue hascii =>
    exact ⟨_, _, rfl, fun _ => ⟨by simp; omega, rfl⟩, fun h => absurd hascii (by omega)⟩
  case isFalse hlong =>
    -- each longer form starts with a byte of at least `0xC0`
    repeat' split
    all_goals exact ⟨_, _, rfl, fun h => absurd h (by omega), fun _ => by simp; omega⟩

theorem isAlpha_iff_toNat (c : Char) :
    c.isAlpha = true ↔ (65 ≤ c.toNat ∧ c.toNat ≤ 90) ∨ (97 ≤ c.toNat ∧ c.toNat ≤ 122) := by
  show (decide (c.val ≥ 'A'.val ∧ c.val ≤ 'Z'.val) ||
      (decide (c.val ≥ 'a'.val) && decide (c.val ≤ 'z'.val))) = true ↔ _
  simp [UInt32.le_iff_toNat_le]

theorem toNat_lt_of_isAlpha {c : Char} (h : c.isAlpha = true) : c.toNat < 128 := by
  rw [isAlpha_iff_toNat] at h
  omega

/-- A decimal digit takes one byte. -/
theorem utf8Size_eq_one_of_isDigit {d : Char} (h : d.isDigit) : d.utf8Size = 1 := by
  rw [Char.utf8Size_eq_one_iff]
  simp only [Char.isDigit, Bool.and_eq_true, decide_eq_true_eq] at h
  simp only [UInt32.le_iff_toNat_le] at h ⊢
  have h9 : '9'.val.toNat = 57 := rfl
  have h127 : (127 : UInt32).toNat = 127 := rfl
  omega

/-- The first byte of a character answers every test against an ASCII value, and the test
for an ASCII letter, as the character does. -/
theorem utf8EncodeChar_head (c : Char) : ∃ b rest, String.utf8EncodeChar c = b :: rest ∧
    (c.toNat < 128 → rest = []) ∧ (∀ n < 128, b.toNat = n ↔ c.toNat = n) ∧
    Specifier.isAsciiAlphaByte b = c.isAlpha := by
  obtain ⟨b, rest, henc, hascii, hlong⟩ := utf8EncodeChar_eq_cons c
  refine ⟨b, rest, henc, fun h => (hascii h).2, ?_, ?_⟩
  · intro n hn
    by_cases h : c.toNat < 128
    · rw [(hascii h).1]
    · have := hlong (by omega); omega
  · rw [Bool.eq_iff_iff, isAlpha_iff_toNat, Specifier.isAsciiAlphaByte]
    by_cases h : c.toNat < 128
    · simp [(hascii h).1]
    · have := hlong (by omega); simp; omega

theorem eq_iff_toNat_eq {c d : Char} : c = d ↔ c.toNat = d.toNat :=
  ⟨congrArg Char.toNat, Char.toNat_inj.1⟩

/-- A byte that answers the ASCII tests as a character does compares with an ASCII character
as it does. -/
theorem beq_toNat_of_head {b : UInt8} {c : Char} (hb : ∀ n < 128, b.toNat = n ↔ c.toNat = n)
    (a : Char) (ha : a.toNat < 128) : (b.toNat == a.toNat) = (c == a) := by
  rw [Bool.eq_iff_iff, beq_iff_eq, beq_iff_eq, hb _ ha, eq_iff_toNat_eq]

theorem getElem?_toByteArray (l : List UInt8) (i : Nat) : l.toByteArray[i]? = l[i]? := by
  by_cases h : i < l.length
  · have h' : i < l.toByteArray.size := by simpa [List.size_toByteArray] using h
    rw [getElem?_pos l.toByteArray i h', getElem?_pos l i h, List.getElem_toByteArray]
  · have h' : ¬i < l.toByteArray.size := by simpa [List.size_toByteArray] using h
    rw [getElem?_neg l.toByteArray i h', getElem?_neg l i h]

/-! ## The cutting functions -/

namespace Specifier

/-- The drive test on the bytes of a text: a letter, a colon and a separator. -/
def driveBytes : List UInt8 → Bool
  | b0 :: b1 :: b2 :: _ =>
    isAsciiAlphaByte b0 && b1.toNat == 58 && (b2.toNat == 92 || b2.toNat == 47)
  | _ => false

theorem driveBytes_of_not_alpha {b0 : UInt8} {t : List UInt8} (h : isAsciiAlphaByte b0 = false) :
    driveBytes (b0 :: t) = false := by
  rcases t with _ | ⟨b1, _ | ⟨b2, t⟩⟩ <;> simp [driveBytes, h]

theorem driveBytes_of_not_colon {b0 b1 : UInt8} {t : List UInt8} (h : b1.toNat ≠ 58) :
    driveBytes (b0 :: b1 :: t) = false := by
  rcases t with _ | ⟨b2, t⟩ <;> simp [driveBytes, h]

/-- The code reads the first three bytes only when there are three. -/
theorem isAbsolutePathBytes?_eq_driveBytes (spec : String) :
    isAbsolutePathBytes? spec = some (spec.startsWith "/" ||
      driveBytes (spec.toList.flatMap String.utf8EncodeChar) || spec.startsWith "\\\\") := by
  have hbytes : spec.toUTF8 = (spec.toList.flatMap String.utf8EncodeChar).toByteArray := by
    calc spec.toUTF8 = (String.ofList spec.toList).toByteArray := by rw [String.ofList_toList]; rfl
      _ = spec.toList.utf8Encode := String.toByteArray_ofList
      _ = _ := rfl
  unfold isAbsolutePathBytes?
  by_cases hroot : spec.startsWith "/" = true
  · simp [hroot]
  simp only [hroot, Bool.false_or, hbytes, List.size_toByteArray, getElem?_toByteArray]
  generalize spec.toList.flatMap String.utf8EncodeChar = L
  -- under three bytes nothing is read; from three on, the first three are
  rcases L with _ | ⟨b0, _ | ⟨b1, _ | ⟨b2, rest⟩⟩⟩
  case cons.cons.cons =>
    have h3 : 3 ≤ rest.length + 1 + 1 + 1 := by omega
    cases ha : isAsciiAlphaByte b0 <;> by_cases h58 : b1.toNat = 58 <;>
      simp [driveBytes, h3, ha, h58]
  all_goals simp [driveBytes]

/-- The drive test on the characters of a text is the one on its bytes. -/
theorem isAbsolutePath_eq_driveBytes (s : String) :
    isAbsolutePath s = (s.startsWith "/" ||
      driveBytes (s.toList.flatMap String.utf8EncodeChar) || s.startsWith "\\\\") := by
  unfold isAbsolutePath
  congr 2
  generalize s.toList = cs
  rcases cs with _ | ⟨d, cs⟩
  · rfl
  obtain ⟨b0, r0, h0, hr0, -, ha0⟩ := utf8EncodeChar_head d
  rw [List.flatMap_cons, h0, List.cons_append]
  by_cases hd : d.isAlpha = true
  case neg =>
    -- a first character that is no letter fails both tests
    rw [driveBytes_of_not_alpha (by rw [ha0]; simpa using hd)]
    split <;> simp_all
  case pos =>
    -- a letter takes one byte, so the next character's first byte is the second byte
    rw [hr0 (toNat_lt_of_isAlpha hd), List.nil_append]
    rcases cs with _ | ⟨c1, cs⟩
    · rfl
    obtain ⟨b1, r1, h1, hr1, hb1, -⟩ := utf8EncodeChar_head c1
    rw [List.flatMap_cons, h1, List.cons_append]
    by_cases hc1 : c1 = ':'
    case neg =>
      have hb1' : b1.toNat ≠ 58 := fun h => hc1 (eq_iff_toNat_eq.2 ((hb1 58 (by decide)).1 h))
      rw [driveBytes_of_not_colon hb1']
      split <;> simp_all
    case pos =>
      subst hc1
      rw [hr1 (by decide), List.nil_append]
      rcases cs with _ | ⟨c2, cs⟩
      · rfl
      obtain ⟨b2, r2, h2, -, hb2, -⟩ := utf8EncodeChar_head c2
      rw [List.flatMap_cons, h2, List.cons_append]
      have hback : (b2.toNat == 92) = (c2 == '\\') := beq_toNat_of_head hb2 '\\' (by decide)
      have hslash : (b2.toNat == 47) = (c2 == '/') := beq_toNat_of_head hb2 '/' (by decide)
      simp [driveBytes, ha0, hd, (hb1 58 (by decide)).2 rfl, hback, hslash]

/-- The drive test reads only bytes that exist, and answers as the test on characters. -/
theorem isAbsolutePathBytes?_eq (spec : String) :
    isAbsolutePathBytes? spec = some (isAbsolutePath spec) := by
  rw [isAbsolutePathBytes?_eq_driveBytes, isAbsolutePath_eq_driveBytes]

theorem ofList_eq_dotdot {N : List Char} : String.ofList N = ".." ↔ N = ['.', '.'] := by
  rw [← String.toList_inj, String.toList_ofList]
  rfl

/-- The extension is cut at the byte offset of the last dot of the name. -/
theorem extensionBytes?_eq (s : String) : extensionBytes? s = some (extension s) := by
  simp only [extensionBytes?, extension]
  generalize lastSegment _ = N
  by_cases hdots : N = ['.', '.']
  · simp [hdots]
  have hname : String.ofList N ≠ ".." := fun h => hdots (ofList_eq_dotdot.1 h)
  simp only [hname, hdots, beq_iff_eq, if_false, rfindByte?_eq_dropWhile, String.toList_ofList]
  -- the name either has no dot, or splits at its last dot into `r.reverse` and the extension
  cases h : N.reverse.dropWhile (· != '.') with
  | nil =>
    have hall : N.reverse.takeWhile (· != '.') = N.reverse :=
      List.takeWhile_eq_self_iff.2 (List.dropWhile_eq_nil_iff.1 h)
    simp [hall]
  | cons d r =>
    obtain ⟨hN, rfl⟩ := eq_append_of_reverse_dropWhile h
    generalize hA : (N.reverse.takeWhile (· != '.')).reverse = A at hN
    subst hN
    cases r with
    | nil => simp
    | cons e es =>
      -- the dot does not start the name, so the cut is at a positive offset; the match
      -- on the offset is decided from `hpos`
      have hpos : byteLength (e :: es).reverse ≠ 0 := by rw [Ne, byteLength_eq_zero_iff]; simp
      have hlong : ¬A.length + 1 ≥ ((e :: es).reverse ++ '.' :: A).length := by simp; omega
      simp only [hlong, if_false]
      rw [byteSlice?_to_end String.toList_ofList]

end Specifier

namespace ExtensionRewrite

/-- The name of a path is cut from `nameStart` on. -/
theorem byteSlice?_nameStart (path : String) :
    byteSlice? path (nameStart path) path.utf8ByteSize =
      some (String.ofList (Specifier.lastSegment path.toList)) := by
  rw [nameStart, rfindByte?_eq_dropWhile, Specifier.lastSegment]
  cases h : path.toList.reverse.dropWhile (· != '/') with
  | nil =>
    have hall : path.toList.reverse.takeWhile (· != '/') = path.toList.reverse :=
      List.takeWhile_eq_self_iff.2 (List.dropWhile_eq_nil_iff.1 h)
    have hs : path.toList = [] ++ path.toList := rfl
    simpa [hall] using byteSlice?_to_end hs
  | cons d r =>
    obtain ⟨hs, rfl⟩ := eq_append_of_reverse_dropWhile h
    have hs' : path.toList =
        (r.reverse ++ ['/']) ++ (path.toList.reverse.takeWhile (· != '/')).reverse := by
      rw [List.append_assoc]; exact hs
    have hslash : '/'.utf8Size = 1 := rfl
    simpa [hslash] using byteSlice?_to_end hs'

/-- The rewrite of an extension cuts the path only at character boundaries. -/
theorem applyFirstBytes?_eq (rules : List ExtensionRewrite) (path : String) :
    applyFirstBytes? rules path = some (applyFirst rules path) := by
  simp only [applyFirstBytes?, applyFirst, byteSlice?_nameStart, Option.bind_eq_bind,
    Option.bind_some]
  split
  case h_1 hnone => simp [hnone]
  case h_2 r hr =>
    have hfits := List.find?_some hr
    simp only [fits, Bool.and_eq_true, List.isSuffixOf_iff_suffix, String.toList_ofList] at hfits
    -- the rule's source ends the name, which ends the path
    obtain ⟨stem, hstem⟩ := hfits.2.trans (lastSegment_suffix path.toList)
    have hs : path.toList = stem ++ r.source.toList := hstem.symm
    have hsize : path.utf8ByteSize = byteLength stem + byteLength r.source.toList := by
      rw [utf8ByteSize_eq_byteLength, hs, byteLength_append]
    have htake : path.toList.take (path.length - r.source.length) = stem := by
      rw [← String.length_toList, ← String.length_toList, hs]
      simp
    simp [hr, checkedSub, hsize, utf8ByteSize_eq_byteLength r.source, byteSlice?_zero hs, htake]

end ExtensionRewrite

namespace Template

/-- Walking the characters of a piece from byte offset `byteLength pre` on, where `pre` is
what precedes them in the piece, every run of digits is cut on character boundaries and the
expansion is the one of the characters. -/
theorem expandRefsBytes?_charIndicesFrom (groups : List (Option String)) (part : String)
    {pre cs : List Char} (h : part.toList = pre ++ cs) :
    expandRefsBytes? groups part (charIndicesFrom (byteLength pre) cs) =
      some (expandRefs groups cs) := by
  induction cs using expandRefs.induct generalizing pre with
  | case1 => simp [expandRefsBytes?, expandRefs]
  | case2 rest ds hnone =>
    rename_i ih
    -- no digit follows the backslash: it is kept, and the walk goes on after it
    have hpart : part.toList = (pre ++ ['\\']) ++ rest := by simp [h]
    have hrest := ih hpart
    have hbs : '\\'.utf8Size = 1 := rfl
    have hnil : rest.takeWhile Char.isDigit = [] := List.isEmpty_iff.1 hnone
    simp only [byteLength_append, byteLength_cons, byteLength_nil, hbs, Nat.add_zero] at hrest
    rw [charIndicesFrom_cons, expandRefsBytes?, if_pos rfl, takeWhile_charIndicesFrom, hnil, hbs]
    simp [hrest, expandRefs.eq_2, hnil]
  | case3 rest ds hsome =>
    rename_i ih
    -- digits follow the backslash: they are cut out between the backslash and the byte
    -- after the last digit, and the walk goes on after them
    have hbs : '\\'.utf8Size = 1 := rfl
    have hne : rest.takeWhile Char.isDigit ≠ [] := fun hnil => hsome (List.isEmpty_iff.2 hnil)
    obtain ⟨ds', d, hds⟩ := (List.eq_nil_or_concat (rest.takeWhile Char.isDigit)).resolve_left hne
    have hd : d.isDigit := List.mem_takeWhile_imp (by rw [hds]; simp)
    have hlast : (charIndicesFrom (byteLength pre + 1) (rest.takeWhile Char.isDigit)).getLast? =
        some (byteLength pre + 1 + byteLength ds', d) := by
      rw [hds, List.concat_eq_append, getLast?_charIndicesFrom_concat]
    have hstop : byteLength pre + 1 + byteLength ds' + 1 =
        byteLength pre + 1 + byteLength (rest.takeWhile Char.isDigit) := by
      rw [hds, List.concat_eq_append, byteLength_append, byteLength_cons,
        utf8Size_eq_one_of_isDigit hd, byteLength_nil]
      omega
    have hpart : part.toList = (pre ++ ['\\']) ++ rest.takeWhile Char.isDigit ++
        rest.dropWhile Char.isDigit := by
      simp [h]
    have hdigits := byteSlice?_of_toList hpart
    have hpart' : part.toList = (pre ++ '\\' :: rest.takeWhile Char.isDigit) ++
        rest.dropWhile Char.isDigit := by
      simp [h]
    have htail := ih hpart'
    simp only [byteLength_append, byteLength_cons, byteLength_nil, hbs, Nat.add_zero]
      at hdigits htail
    rw [charIndicesFrom_cons, expandRefsBytes?, if_pos rfl, takeWhile_charIndicesFrom,
      dropWhile_charIndicesFrom, hbs, hlast]
    dsimp only
    rw [← Nat.add_assoc] at htail
    rw [hstop, if_pos (by omega), hdigits, htail, expandRefs.eq_2, if_neg hsome]
    simp
  | case4 c rest hc ih =>
    have hpart : part.toList = (pre ++ [c]) ++ rest := by simp [h]
    have hrest := ih hpart
    simp only [byteLength_append, byteLength_cons, byteLength_nil, Nat.add_zero] at hrest
    rw [charIndicesFrom_cons, expandRefsBytes?, if_neg hc, hrest, expandRefs.eq_3 _ _ _ hc]
    rfl

/-- The group references of a whole piece are cut on character boundaries. -/
theorem expandRefsBytes?_eq (groups : List (Option String)) (part : String) :
    expandRefsBytes? groups part (charIndices part) = some (expandRefs groups part.toList) := by
  simpa [charIndices] using
    expandRefsBytes?_charIndicesFrom groups part (List.nil_append part.toList).symm

end Template

namespace Locate

/-- A bare specifier is cut around the `/` that ends its package name. -/
theorem splitBareBytes?_eq (s : String) : splitBareBytes? s = some (splitBare s) := by
  have hidx := charIndicesFrom_eq_map_zipIdx 0 s.toList
  have hslash : '/'.utf8Size = 1 := rfl
  simp only [splitBareBytes?, splitBare, charIndices, findByte?, hidx, List.filter_map,
    List.find?_map, List.findIdx?_eq_fst_find?_zipIdx, Nat.zero_add, Function.comp_def]
  -- the byte offset of a cut is the size of the characters before it
  have hcut : ∀ c i, (c, i) ∈ s.toList.zipIdx → (c == '/') = true →
      (do
        let name ← byteSlice? s 0 (byteLength (s.toList.take i))
        let sub ← byteSlice? s (byteLength (s.toList.take i) + 1) s.utf8ByteSize
        pure (name, some sub)) =
      some (String.ofList (s.toList.take i), some (String.ofList (s.toList.drop (i + 1)))) := by
    intro c i hz hc
    obtain ⟨hname, hsub⟩ := byteSlice?_around hz
    rw [beq_iff_eq.1 hc, hslash] at hsub
    simp [hname, hsub]
  by_cases hat : s.startsWith "@" = true
  case pos =>
    simp only [hat, if_true]
    cases hf : List.filter (fun x => x.1 == '/') s.toList.zipIdx with
    | nil => simp
    | cons a t =>
      cases t with
      | nil => simp
      | cons b t =>
        have hmem : b ∈ List.filter (fun x => x.1 == '/') s.toList.zipIdx := by simp [hf]
        rw [List.mem_filter] at hmem
        simpa using hcut b.1 b.2 hmem.1 hmem.2
  case neg =>
    simp only [hat]
    cases hf : List.find? (fun x => x.1 == '/') s.toList.zipIdx with
    | none => simp
    | some b =>
      have hb := List.find?_some hf
      simpa using hcut b.1 b.2 (List.mem_of_find?_eq_some hf) hb

end Locate

namespace Path

/-- The components after the common prefix are taken within both lists. -/
theorem relativeSlices?_eq (src dst : Path) : relativeSlices? src dst = some (relative src dst) := by
  have hsrc := commonPrefixLength_le_left src.components dst.components
  have hdst := commonPrefixLength_le_right src.components dst.components
  simp only [relativeSlices?, relative, sliceFrom?, hsrc, hdst, if_true]
  split <;> simp

end Path

/-- No cut fails, whatever the texts, rules, groups and paths: the drive test reads only
bytes that exist; the extension, the rewrite of an extension, the expansion of group
references, the split of a bare specifier and the way between two directories cut only at
character boundaries, in order, and take lists only from indices within them. Each gives
what the function on characters gives. -/
theorem byte_cuts_never_fail (spec name path part : String) (rules : List ExtensionRewrite)
    (groups : List (Option String)) (src dst : Path) :
    Specifier.isAbsolutePathBytes? spec = some (Specifier.isAbsolutePath spec) ∧
    Specifier.extensionBytes? name = some (Specifier.extension name) ∧
    ExtensionRewrite.applyFirstBytes? rules path = some (ExtensionRewrite.applyFirst rules path) ∧
    Template.expandRefsBytes? groups part (charIndices part) =
      some (Template.expandRefs groups part.toList) ∧
    Locate.splitBareBytes? spec = some (Locate.splitBare spec) ∧
    Path.relativeSlices? src dst = some (Path.relative src dst) :=
  ⟨Specifier.isAbsolutePathBytes?_eq spec, Specifier.extensionBytes?_eq name,
    ExtensionRewrite.applyFirstBytes?_eq rules path, Template.expandRefsBytes?_eq groups part,
    Locate.splitBareBytes?_eq spec, Path.relativeSlices?_eq src dst⟩

end ImportPath
