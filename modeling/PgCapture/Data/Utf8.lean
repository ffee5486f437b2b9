import PgCapture.Data.Cursor

namespace PgCapture.Data.Utf8

/-! # UTF-8 text

Valid text travels as the encoding of its characters.  Reading text back is
lossy: each maximal ill-formed piece of the input becomes one U+FFFD.
-/

def encode (text : String) : Bytes := text.toList.flatMap String.utf8EncodeChar

def isContinuation (byte : UInt8) : Bool := 0x80 ≤ byte && byte ≤ 0xBF

/-- The range a second byte must lie in after a lead byte of a three- or
four-byte sequence; it excludes overlong forms, surrogates and values past
U+10FFFF. -/
def isSecond (lead second : UInt8) : Bool :=
  match lead with
  | 0xE0 => 0xA0 ≤ second && second ≤ 0xBF
  | 0xED => 0x80 ≤ second && second ≤ 0x9F
  | 0xF0 => 0x90 ≤ second && second ≤ 0xBF
  | 0xF4 => 0x80 ≤ second && second ≤ 0x8F
  | _ => isContinuation second

/-- How many bytes one replacement character stands for, at a position where
no character can be decoded. -/
def illFormedLength : Bytes → Nat
  | lead :: second :: third :: _ =>
      if 0xE0 ≤ lead && lead ≤ 0xEF then
        if isSecond lead second then 2 else 1
      else if 0xF0 ≤ lead && lead ≤ 0xF4 then
        if isSecond lead second then if isContinuation third then 3 else 2 else 1
      else 1
  | [lead, second] =>
      if 0xE0 ≤ lead && lead ≤ 0xF4 then if isSecond lead second then 2 else 1 else 1
  | _ => 1

def replacement : Char := '\uFFFD'

/-- At most `fuel` characters of a byte string. -/
def lossyChars : Nat → Bytes → List Char
  | 0, _ => []
  | _ + 1, [] => []
  | fuel + 1, byte :: rest =>
      match (byte :: rest).toByteArray.utf8DecodeChar? 0 with
      | some char => char :: lossyChars fuel ((byte :: rest).drop char.utf8Size)
      | none =>
          replacement :: lossyChars fuel ((byte :: rest).drop (illFormedLength (byte :: rest)))

/-- The text of a byte string; every character takes at least one byte, so the
length of the input bounds the characters. -/
def fromUtf8Lossy (bytes : Bytes) : String := String.ofList (lossyChars bytes.length bytes)

theorem lossyChars_encodeChar (fuel : Nat) (char : Char) (rest : Bytes) :
    lossyChars (fuel + 1) (String.utf8EncodeChar char ++ rest) = char :: lossyChars fuel rest := by
  have decoded : (String.utf8EncodeChar char ++ rest).toByteArray.utf8DecodeChar? 0 = some char := by
    rw [List.toByteArray_append]
    exact ByteArray.utf8DecodeChar?_utf8EncodeChar_append
  have dropped : (String.utf8EncodeChar char ++ rest).drop char.utf8Size = rest := by
    rw [← String.length_utf8EncodeChar char, List.drop_left]
  cases shape : String.utf8EncodeChar char ++ rest with
  | nil =>
      have positive := char.utf8Size_pos
      have length := congrArg List.length shape
      simp only [List.length_append, String.length_utf8EncodeChar, List.length_nil] at length
      omega
  | cons byte tail =>
      rw [shape] at decoded dropped
      simp only [lossyChars, decoded, dropped]

theorem lossyChars_encode (chars : List Char) {fuel : Nat}
    (enough : (chars.flatMap String.utf8EncodeChar).length ≤ fuel) :
    lossyChars fuel (chars.flatMap String.utf8EncodeChar) = chars := by
  induction chars generalizing fuel with
  | nil => cases fuel <;> rfl
  | cons char chars ih =>
      rw [List.flatMap_cons] at enough ⊢
      have positive := char.utf8Size_pos
      rw [List.length_append, String.length_utf8EncodeChar] at enough
      cases fuel with
      | zero => omega
      | succ fuel => rw [lossyChars_encodeChar, ih (by omega)]

@[simp] theorem fromUtf8Lossy_encode (text : String) : fromUtf8Lossy (encode text) = text := by
  rw [fromUtf8Lossy, encode, lossyChars_encode text.toList (Nat.le_refl _), String.ofList_toList]

/-- A byte below `0x80` is a character of its own wherever it stands. -/
theorem encodeChar_low {char : Char} {byte : UInt8} (member : byte ∈ String.utf8EncodeChar char)
    (low : byte.toNat < 0x80) : char.val.toNat = byte.toNat := by
  have digit : ∀ value marker, 0x80 ≤ marker → marker + value < 0x100 →
      byte = UInt8.ofNat (value + marker) → False := by
    intro value marker high fits same
    rw [same, UInt8.toNat_ofNat'] at low
    omega
  unfold String.utf8EncodeChar at member
  dsimp only at member
  split at member
  · rename_i ascii
    rw [List.mem_singleton.mp member, UInt8.toNat_ofNat']
    omega
  · split at member
    · simp only [List.mem_cons, List.not_mem_nil, or_false] at member
      rcases member with same | same
      · exact (digit _ 0xC0 (by decide) (by omega) same).elim
      · exact (digit _ 0x80 (by decide) (by omega) same).elim
    · split at member
      · simp only [List.mem_cons, List.not_mem_nil, or_false] at member
        rcases member with same | same | same
        · exact (digit _ 0xE0 (by decide) (by omega) same).elim
        · exact (digit _ 0x80 (by decide) (by omega) same).elim
        · exact (digit _ 0x80 (by decide) (by omega) same).elim
      · simp only [List.mem_cons, List.not_mem_nil, or_false] at member
        rcases member with same | same | same | same
        · exact (digit _ 0xF0 (by decide) (by omega) same).elim
        · exact (digit _ 0x80 (by decide) (by omega) same).elim
        · exact (digit _ 0x80 (by decide) (by omega) same).elim
        · exact (digit _ 0x80 (by decide) (by omega) same).elim

theorem encodeChar_of_low {char : Char} (low : char.val.toNat < 0x80) :
    String.utf8EncodeChar char = [UInt8.ofNat char.val.toNat] := by
  have ascii : char.val.toNat ≤ 0x7f := by omega
  unfold String.utf8EncodeChar
  exact if_pos ascii

theorem decodeChar_eq_some {bytes : Bytes} {char : Char}
    (decoded : bytes.toByteArray.utf8DecodeChar? 0 = some char) :
    ∃ rest, bytes = String.utf8EncodeChar char ++ rest := by
  obtain ⟨rest, shape⟩ := ByteArray.exists_of_utf8DecodeChar?_eq_some decoded
  refine ⟨rest.data.toList, ?_⟩
  have lists := congrArg (fun array : ByteArray => array.data.toList) shape
  simpa using lists

theorem decodeChar_low {byte : UInt8} (low : byte.toNat < 0x80) (rest : Bytes) :
    ∃ char, (byte :: rest).toByteArray.utf8DecodeChar? 0 = some char := by
  have value : (Char.ofNat byte.toNat).val.toNat = byte.toNat := by
    have valid : byte.toNat.isValidChar := Or.inl (by omega)
    rw [Char.ofNat, dif_pos valid]
    rfl
  have encoded : String.utf8EncodeChar (Char.ofNat byte.toNat) = [byte] := by
    rw [encodeChar_of_low (by rwa [value]), value, UInt8.ofNat_toNat]
  refine ⟨Char.ofNat byte.toNat, ?_⟩
  have shape : byte :: rest = String.utf8EncodeChar (Char.ofNat byte.toNat) ++ rest := by
    rw [encoded]
    rfl
  rw [shape, List.toByteArray_append]
  exact ByteArray.utf8DecodeChar?_utf8EncodeChar_append

theorem isSecond_ne_zero {lead second : UInt8} (follows : isSecond lead second) : second ≠ 0 := by
  intro zero
  subst zero
  unfold isSecond at follows
  split at follows <;> simp [isContinuation] at follows

theorem isContinuation_ne_zero {byte : UInt8} (follows : isContinuation byte) : byte ≠ 0 := by
  intro zero
  subst zero
  simp [isContinuation] at follows

/-- A replacement character never stands for a NUL behind the first byte. -/
theorem nul_mem_drop_illFormed {byte : UInt8} {rest : Bytes} (member : 0 ∈ rest) :
    0 ∈ (byte :: rest).drop (illFormedLength (byte :: rest)) := by
  match rest with
  | [] => contradiction
  | [second] =>
      rw [illFormedLength]
      split
      · split
        · rename_i follows
          exact absurd (List.mem_singleton.mp member).symm (isSecond_ne_zero follows)
        · exact member
      · exact member
  | second :: third :: tail =>
      rw [illFormedLength]
      have afterSecond : isSecond byte second → 0 ∈ third :: tail := by
        intro follows
        rcases List.mem_cons.mp member with same | later
        · exact absurd same.symm (isSecond_ne_zero follows)
        · exact later
      split
      · split
        · rename_i follows
          exact afterSecond follows
        · exact member
      · split
        · split
          · rename_i follows
            split
            · rename_i continues
              rcases List.mem_cons.mp (afterSecond follows) with same | later
              · exact absurd same.symm (isContinuation_ne_zero continues)
              · exact later
            · exact afterSecond follows
          · exact member
        · exact member

theorem nul_mem_lossyChars {fuel : Nat} {bytes : Bytes} (enough : bytes.length ≤ fuel)
    (member : 0 ∈ bytes) : '\x00' ∈ lossyChars fuel bytes := by
  induction fuel generalizing bytes with
  | zero =>
      rw [List.length_eq_zero_iff.mp (Nat.le_zero.mp enough)] at member
      contradiction
  | succ fuel ih =>
      cases bytes with
      | nil => contradiction
      | cons byte rest =>
          rw [List.length_cons] at enough
          rw [lossyChars]
          split
          · rename_i char decoded
            obtain ⟨tail, shape⟩ := decodeChar_eq_some decoded
            have dropped : (byte :: rest).drop char.utf8Size = tail := by
              rw [shape, ← String.length_utf8EncodeChar char, List.drop_left]
            have positive := char.utf8Size_pos
            have shorter : tail.length ≤ fuel := by
              rw [← dropped, List.length_drop, List.length_cons]
              omega
            rw [dropped]
            rw [shape] at member
            rcases List.mem_append.mp member with inChar | inTail
            · have zero := encodeChar_low inChar (by decide)
              have nul : char = '\x00' := Char.ext (UInt32.toNat_inj.mp zero)
              exact nul ▸ List.mem_cons_self
            · exact List.mem_cons_of_mem _ (ih shorter inTail)
          · rename_i undecoded
            have notNul : byte ≠ 0 := by
              intro zero
              have low : byte.toNat < 0x80 := by
                rw [zero]
                decide
              obtain ⟨char, decoded⟩ := decodeChar_low low rest
              rw [decoded] at undecoded
              contradiction
            have later : 0 ∈ rest := by
              rcases List.mem_cons.mp member with same | later
              · exact absurd same.symm notNul
              · exact later
            have positive : 0 < illFormedLength (byte :: rest) := by
              unfold illFormedLength
              split <;> (repeat' split) <;> decide
            have shorter : ((byte :: rest).drop (illFormedLength (byte :: rest))).length ≤ fuel := by
              rw [List.length_drop, List.length_cons]
              omega
            exact List.mem_cons_of_mem _ (ih shorter (nul_mem_drop_illFormed later))

theorem nul_mem_fromUtf8Lossy {bytes : Bytes} (member : 0 ∈ bytes) :
    '\x00' ∈ (fromUtf8Lossy bytes).toList := by
  rw [fromUtf8Lossy, String.toList_ofList]
  exact nul_mem_lossyChars (Nat.le_refl _) member

theorem nul_mem_encode {text : String} (member : '\x00' ∈ text.toList) : 0 ∈ encode text :=
  List.mem_flatMap.mpr ⟨'\x00', member, by decide⟩

/-- Behind a byte that is not ASCII the text does not start with an ASCII character. -/
theorem lossyChars_high {fuel : Nat} {byte : UInt8} {rest : Bytes} {char : Char} {chars : List Char}
    (high : 0x80 ≤ byte.toNat) (text : lossyChars fuel (byte :: rest) = char :: chars) :
    0x80 ≤ char.val.toNat := by
  cases fuel with
  | zero => contradiction
  | succ fuel =>
      rw [lossyChars] at text
      split at text
      · rename_i decoded _ shape
        obtain ⟨rfl, _⟩ := List.cons.inj text
        obtain ⟨tail, bytes⟩ := decodeChar_eq_some shape
        by_contra low
        rw [encodeChar_of_low (Nat.lt_of_not_le low)] at bytes
        have first := congrArg UInt8.toNat (List.cons.inj bytes).1
        rw [UInt8.toNat_ofNat'] at first
        omega
      · obtain ⟨rfl, _⟩ := List.cons.inj text
        decide

/-- The beginning of an encoded text, read back, is not that text behind one
    more ASCII character. -/
theorem lossyChars_take_ne {chars : List Char} {char : Char} (ascii : char.val.toNat < 0x80)
    (fuel count : Nat) :
    lossyChars fuel ((chars.flatMap String.utf8EncodeChar).take count) ≠ char :: chars := by
  induction chars generalizing char fuel count with
  | nil =>
      rw [List.flatMap_nil, List.take_nil]
      cases fuel <;> simp [lossyChars]
  | cons first chars ih =>
      intro text
      rw [List.flatMap_cons] at text
      by_cases whole : first.utf8Size ≤ count
      · have taken : (String.utf8EncodeChar first ++ chars.flatMap String.utf8EncodeChar).take count =
            String.utf8EncodeChar first ++
              (chars.flatMap String.utf8EncodeChar).take (count - first.utf8Size) := by
          rw [List.take_append, String.length_utf8EncodeChar, List.take_of_length_le]
          rwa [String.length_utf8EncodeChar]
        rw [taken] at text
        cases fuel with
        | zero => contradiction
        | succ fuel =>
            rw [lossyChars_encodeChar] at text
            obtain ⟨rfl, tail⟩ := List.cons.inj text
            exact ih ascii fuel _ tail
      · cases count with
        | zero =>
            rw [List.take_zero] at text
            cases fuel <;> contradiction
        | succ count =>
            cases shape : String.utf8EncodeChar first with
            | nil => exact String.utf8EncodeChar_ne_nil shape
            | cons byte tail =>
                rw [shape, List.cons_append, List.take_succ_cons] at text
                have high : 0x80 ≤ byte.toNat := by
                  by_contra low
                  have member : byte ∈ String.utf8EncodeChar first := shape ▸ List.mem_cons_self
                  have value := encodeChar_low member (Nat.lt_of_not_le low)
                  have single := encodeChar_of_low (value ▸ Nat.lt_of_not_le low)
                  have size := String.length_utf8EncodeChar first
                  rw [single, List.length_singleton] at size
                  omega
                exact absurd (lossyChars_high high text) (Nat.not_le_of_lt ascii)

/-- The text behind `count` bytes, if a character starts there. -/
def dropBytes : List Char → Nat → Option (List Char)
  | chars, 0 => some chars
  | [], _ + 1 => none
  | char :: rest, count + 1 =>
      if char.utf8Size ≤ count + 1 then dropBytes rest (count + 1 - char.utf8Size) else none

def takeBytes : List Char → Nat → Option (List Char)
  | _, 0 => some []
  | [], _ + 1 => none
  | char :: rest, count + 1 =>
      if char.utf8Size ≤ count + 1 then
        (takeBytes rest (count + 1 - char.utf8Size)).map (char :: ·)
      else none

def byteLength (chars : List Char) : Nat := (chars.map Char.utf8Size).sum

/-- The bytes from `start` up to `stop`; out of range or off a boundary there
is no such slice, and taking it panics. -/
def slice (chars : List Char) (start stop : Nat) : Outcome ε (List Char) :=
  if stop < start then .panic
  else match (dropBytes chars start).bind fun rest => takeBytes rest (stop - start) with
    | some part => .ok part
    | none => .panic

theorem takeBytes_append (front rest : List Char) :
    takeBytes (front ++ rest) (byteLength front) = some front := by
  induction front with
  | nil => cases rest <;> rfl
  | cons char front ih =>
      have positive := char.utf8Size_pos
      have split : byteLength (char :: front) = (char.utf8Size - 1 + byteLength front) + 1 := by
        simp only [byteLength, List.map_cons, List.sum_cons]
        omega
      have within : char.utf8Size ≤ (char.utf8Size - 1 + byteLength front) + 1 := by omega
      have left : char.utf8Size - 1 + byteLength front + 1 - char.utf8Size = byteLength front := by
        omega
      rw [List.cons_append, split, takeBytes, if_pos within, left, ih]
      rfl

theorem slice_inner {first last : Char} (inner : List Char) (firstSize : first.utf8Size = 1)
    (lastSize : last.utf8Size = 1) :
    (slice (first :: (inner ++ [last])) 1 (byteLength (first :: (inner ++ [last])) - 1) :
      Outcome ε (List Char)) = .ok inner := by
  have length : byteLength (first :: (inner ++ [last])) - 1 = byteLength inner + 1 := by
    simp only [byteLength, List.map_cons, List.map_append, List.sum_cons, List.sum_append,
      List.map_nil, List.sum_nil, firstSize, lastSize]
    omega
  have dropped : dropBytes (first :: (inner ++ [last])) 1 = some (inner ++ [last]) := by
    rw [dropBytes, firstSize, if_pos (Nat.le_refl _)]
    cases inner <;> rfl
  have order : ¬ byteLength inner + 1 < 1 := by omega
  rw [slice, length, if_neg order, dropped, Option.bind_some, Nat.add_sub_cancel,
    takeBytes_append]

end PgCapture.Data.Utf8
