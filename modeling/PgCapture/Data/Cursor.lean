import Mathlib.Algebra.Order.Ring.Nat
import Mathlib.Data.List.Induction
import Mathlib.Data.List.Forall2

namespace PgCapture.Data

/-! # Reading bytes from the front of a slice

A byte source in the style of a network buffer: each read takes bytes off the
front, and a read past the end does not return at all.  Parsers that check a
length first and parsers that rely on the read itself are both written against
this interface, so an unchecked read is visible as a `panic` result.
-/

abbrev Bytes := List UInt8

/-- What a call does: it returns a value, returns an error, or never returns. -/
inductive Outcome (ε α : Type) where
  | ok (value : α)
  | err (reason : ε)
  | panic
deriving DecidableEq, Repr

namespace Outcome

def bind : Outcome ε α → (α → Outcome ε β) → Outcome ε β
  | .ok value, next => next value
  | .err reason, _ => .err reason
  | .panic, _ => .panic

instance : Monad (Outcome ε) where
  pure := .ok
  bind := Outcome.bind

instance : LawfulMonad (Outcome ε) := LawfulMonad.mk' (Outcome ε)
  (fun first => by cases first <;> rfl)
  (fun _ _ => rfl)
  (fun first _ _ => by cases first <;> rfl)

@[simp] theorem pure_eq (value : α) : (pure value : Outcome ε α) = .ok value := rfl

@[simp] theorem ok_bind (value : α) (next : α → Outcome ε β) :
    (Outcome.ok value >>= next) = next value := rfl

@[simp] theorem err_bind (reason : ε) (next : α → Outcome ε β) :
    (Outcome.err reason >>= next) = .err reason := rfl

@[simp] theorem panic_bind (next : α → Outcome ε β) :
    ((Outcome.panic : Outcome ε α) >>= next) = .panic := rfl

theorem bind_eq_ok {first : Outcome ε α} {next : α → Outcome ε β} {result : β} :
    (first >>= next) = .ok result ↔ ∃ value, first = .ok value ∧ next value = .ok result := by
  cases first with
  | ok value => simp
  | err reason => simp
  | panic => simp

theorem mapM_ok {step : α → Outcome ε β} {inputs : List α}
    (total : ∀ input ∈ inputs, ∃ value, step input = .ok value) :
    ∃ values, inputs.mapM step = .ok values := by
  induction inputs with
  | nil => exact ⟨[], rfl⟩
  | cons input inputs ih =>
      obtain ⟨value, first⟩ := total input List.mem_cons_self
      obtain ⟨values, rest⟩ := ih (fun other member => total other (List.mem_cons_of_mem _ member))
      exact ⟨value :: values, by simp only [List.mapM_cons, first, rest, ok_bind, pure_eq]⟩

theorem mapM_eq_ok {step : α → Outcome ε β} {inputs : List α} {values : List β} :
    inputs.mapM step = .ok values ↔
      List.Forall₂ (fun input value => step input = .ok value) inputs values := by
  induction inputs generalizing values with
  | nil =>
      rw [List.forall₂_nil_left_iff, List.mapM_nil, pure_eq, Outcome.ok.injEq, eq_comm]
  | cons input inputs ih =>
      rw [List.mapM_cons, bind_eq_ok, List.forall₂_cons_left_iff]
      simp only [bind_eq_ok, ih, pure_eq, Outcome.ok.injEq]
      constructor
      · rintro ⟨value, first, values, rest, rfl⟩
        exact ⟨value, values, first, rest, rfl⟩
      · rintro ⟨value, values, first, rest, rfl⟩
        exact ⟨value, first, values, rest, rfl⟩

theorem mem_of_mapM_eq_ok {step : α → Outcome ε β} {inputs : List α} {values : List β}
    (mapped : inputs.mapM step = .ok values) {value : β} (member : value ∈ values) :
    ∃ input ∈ inputs, step input = .ok value := by
  rw [mapM_eq_ok] at mapped
  induction mapped with
  | nil => cases member
  | @cons input first inputs values made _ ih =>
      cases member with
      | head => exact ⟨input, List.mem_cons_self, made⟩
      | tail _ member =>
          obtain ⟨source, listed, made⟩ := ih member
          exact ⟨source, List.mem_cons_of_mem _ listed, made⟩

def toOption : Outcome ε α → Option α
  | .ok value => some value
  | .err _ => none
  | .panic => none

@[simp] theorem toOption_ok (value : α) :
    (Outcome.ok value : Outcome ε α).toOption = some value := rfl

@[simp] theorem toOption_err (reason : ε) :
    (Outcome.err reason : Outcome ε α).toOption = none := rfl

@[simp] theorem toOption_panic : (Outcome.panic : Outcome ε α).toOption = none := rfl

theorem toOption_eq_some {outcome : Outcome ε α} {value : α} :
    outcome.toOption = some value ↔ outcome = .ok value := by
  cases outcome with
  | ok value => simp
  | err reason => simp
  | panic => simp

def map (change : α → β) : Outcome ε α → Outcome ε β
  | .ok value => .ok (change value)
  | .err reason => .err reason
  | .panic => .panic

@[simp] theorem map_ok (change : α → β) (value : α) :
    (Outcome.ok value : Outcome ε α).map change = .ok (change value) := rfl

@[simp] theorem map_err (change : α → β) (reason : ε) :
    (Outcome.err reason : Outcome ε α).map change = .err reason := rfl

@[simp] theorem map_panic (change : α → β) :
    (Outcome.panic : Outcome ε α).map change = .panic := rfl

theorem map_eq_ok {first : Outcome ε α} {change : α → β} {result : β} :
    first.map change = .ok result ↔ ∃ value, first = .ok value ∧ change value = result := by
  cases first with
  | ok value => simp
  | err reason => simp
  | panic => simp

end Outcome

/-- A computation that reads from the front of the remaining bytes. -/
def Cursor (ε α : Type) := Bytes → Outcome ε (α × Bytes)

namespace Cursor

instance : Monad (Cursor ε) where
  pure value := fun bytes => .ok (value, bytes)
  bind first next := fun bytes => (first bytes).bind fun result => next result.1 result.2

@[simp] theorem pure_apply (value : α) (bytes : Bytes) :
    (pure value : Cursor ε α) bytes = .ok (value, bytes) := rfl

theorem bind_apply (first : Cursor ε α) (next : α → Cursor ε β) (bytes : Bytes) :
    (first >>= next) bytes = (first bytes >>= fun result => next result.1 result.2) := rfl

theorem bind_of_ok {first : Cursor ε α} {next : α → Cursor ε β} {bytes rest : Bytes} {value : α}
    (read : first bytes = .ok (value, rest)) :
    (first >>= next) bytes = next value rest := by
  rw [bind_apply, read]
  rfl

theorem bind_eq_ok {first : Cursor ε α} {next : α → Cursor ε β} {bytes : Bytes}
    {result : β × Bytes} :
    (first >>= next) bytes = .ok result ↔
      ∃ value rest, first bytes = .ok (value, rest) ∧ next value rest = .ok result := by
  rw [bind_apply, Outcome.bind_eq_ok]
  simp only [Prod.exists]

theorem bind_eq_panic {first : Cursor ε α} {next : α → Cursor ε β} {bytes : Bytes} :
    (first >>= next) bytes = .panic ↔
      first bytes = .panic ∨ ∃ value rest, first bytes = .ok (value, rest) ∧ next value rest = .panic := by
  rw [bind_apply]
  cases first bytes with
  | ok result =>
      obtain ⟨value, rest⟩ := result
      simp
  | err reason => simp
  | panic => simp

/-- Run on a slice whose unread remainder is dropped. -/
def run (cursor : Cursor ε α) (bytes : Bytes) : Outcome ε α :=
  (cursor bytes).map Prod.fst

theorem run_of_ok {cursor : Cursor ε α} {bytes rest : Bytes} {value : α}
    (read : cursor bytes = .ok (value, rest)) : cursor.run bytes = .ok value := by
  simp [run, read]

theorem run_eq_ok {cursor : Cursor ε α} {bytes : Bytes} {value : α} :
    cursor.run bytes = .ok value ↔ ∃ rest, cursor bytes = .ok (value, rest) := by
  simp only [run, Outcome.map_eq_ok, Prod.exists, exists_and_right, exists_eq_right]

theorem run_bind (first : Cursor ε α) (next : α → Cursor ε β) (bytes : Bytes) :
    (first >>= next).run bytes = (first bytes >>= fun result => (next result.1).run result.2) := by
  rw [run, bind_apply]
  cases first bytes <;> rfl

theorem run_eq_panic {cursor : Cursor ε α} {bytes : Bytes} :
    cursor.run bytes = .panic ↔ cursor bytes = .panic := by
  rw [run]
  cases cursor bytes with
  | ok result => simp
  | err reason => simp
  | panic => simp

@[simp] theorem run_pure (value : α) (bytes : Bytes) :
    (pure value : Cursor ε α).run bytes = .ok value := rfl

theorem run_bind_of_ok {first : Cursor ε α} {next : α → Cursor ε β} {bytes rest : Bytes} {value : α}
    (read : first bytes = .ok (value, rest)) :
    (first >>= next).run bytes = (next value).run rest := by
  rw [run_bind, read]
  rfl

def fail (reason : ε) : Cursor ε α := fun _ => .err reason

@[simp] theorem fail_apply (reason : ε) (bytes : Bytes) :
    (fail reason : Cursor ε α) bytes = .err reason := rfl

@[simp] theorem fail_run (reason : ε) (bytes : Bytes) :
    (fail reason : Cursor ε α).run bytes = .err reason := rfl

def lift (outcome : Outcome ε α) : Cursor ε α := fun bytes => outcome.map fun value => (value, bytes)

@[simp] theorem lift_ok_apply (value : α) (bytes : Bytes) :
    (lift (.ok value) : Cursor ε α) bytes = .ok (value, bytes) := rfl

def remaining : Cursor ε Nat := fun bytes => .ok (bytes.length, bytes)

@[simp] theorem remaining_apply (bytes : Bytes) :
    (remaining : Cursor ε Nat) bytes = .ok (bytes.length, bytes) := rfl

/-- Take `count` bytes off the front; past the end it panics. -/
def takeBytes (count : Nat) : Cursor ε Bytes := fun bytes =>
  if count ≤ bytes.length then .ok (bytes.take count, bytes.drop count) else .panic

theorem takeBytes_of_le {count : Nat} {bytes : Bytes} (enough : count ≤ bytes.length) :
    (takeBytes count : Cursor ε Bytes) bytes = .ok (bytes.take count, bytes.drop count) := by
  simp [takeBytes, enough]

theorem takeBytes_eq_panic {count : Nat} {bytes : Bytes} :
    (takeBytes count : Cursor ε Bytes) bytes = .panic ↔ bytes.length < count := by
  by_cases enough : count ≤ bytes.length
  · simp [takeBytes, enough]
  · simp [takeBytes, enough, Nat.lt_of_not_le enough]

theorem takeBytes_eq_ok {count : Nat} {bytes front rest : Bytes} :
    (takeBytes count : Cursor ε Bytes) bytes = .ok (front, rest) ↔
      bytes = front ++ rest ∧ front.length = count := by
  constructor
  · intro read
    rw [takeBytes] at read
    split at read
    · rename_i enough
      cases read
      exact ⟨(List.take_append_drop count bytes).symm, List.length_take_of_le enough⟩
    · contradiction
  · intro split
    obtain ⟨rfl, rfl⟩ := split
    simp [takeBytes]

theorem takeBytes_append (front rest : Bytes) {count : Nat} (length : front.length = count) :
    (takeBytes count : Cursor ε Bytes) (front ++ rest) = .ok (front, rest) := by
  subst count
  simp [takeBytes]

def takeRest : Cursor ε Bytes := fun bytes => .ok (bytes, [])

@[simp] theorem takeRest_apply (bytes : Bytes) :
    (takeRest : Cursor ε Bytes) bytes = .ok (bytes, []) := rfl

def getU8 : Cursor ε UInt8
  | [] => .panic
  | byte :: rest => .ok (byte, rest)

@[simp] theorem getU8_cons (byte : UInt8) (rest : Bytes) :
    (getU8 : Cursor ε UInt8) (byte :: rest) = .ok (byte, rest) := rfl

theorem getU8_eq_ok {bytes rest : Bytes} {byte : UInt8} :
    (getU8 : Cursor ε UInt8) bytes = .ok (byte, rest) ↔ bytes = byte :: rest := by
  cases bytes with
  | nil => simp [getU8]
  | cons first tail => simp [getU8]

theorem getU8_eq_panic {bytes : Bytes} : (getU8 : Cursor ε UInt8) bytes = .panic ↔ bytes = [] := by
  cases bytes with
  | nil => simp [getU8]
  | cons first tail => simp [getU8]

end Cursor

/-- The number a byte string spells in base 256, most significant byte first. -/
def bigEndian (bytes : Bytes) : Nat :=
  bytes.foldl (fun value byte => value * 256 + byte.toNat) 0

/-- The `width` base-256 digits of a number, most significant first. -/
def toBigEndian : Nat → Nat → Bytes
  | 0, _ => []
  | width + 1, value => toBigEndian width (value / 256) ++ [UInt8.ofNat (value % 256)]

@[simp] theorem toBigEndian_length (width value : Nat) : (toBigEndian width value).length = width := by
  induction width generalizing value with
  | zero => rfl
  | succ width ih => simp [toBigEndian, ih]

theorem bigEndian_append_byte (bytes : Bytes) (byte : UInt8) :
    bigEndian (bytes ++ [byte]) = bigEndian bytes * 256 + byte.toNat := by
  simp [bigEndian]

theorem bigEndian_toBigEndian {width value : Nat} (fits : value < 256 ^ width) :
    bigEndian (toBigEndian width value) = value := by
  induction width generalizing value with
  | zero =>
      have zero : value = 0 := by simpa using fits
      subst value
      rfl
  | succ width ih =>
      have high : value / 256 < 256 ^ width := by
        rw [Nat.pow_succ] at fits
        exact Nat.div_lt_of_lt_mul (by omega)
      rw [toBigEndian, bigEndian_append_byte, ih high]
      have digit : (UInt8.ofNat (value % 256)).toNat = value % 256 := by
        rw [UInt8.toNat_ofNat']
        omega
      rw [digit]
      omega

theorem toBigEndian_append_byte (width value : Nat) (byte : UInt8) :
    toBigEndian (width + 1) (value * 256 + byte.toNat) = toBigEndian width value ++ [byte] := by
  have small := byte.toNat_lt
  have high : (value * 256 + byte.toNat) / 256 = value := by omega
  have low : (value * 256 + byte.toNat) % 256 = byte.toNat := by omega
  rw [toBigEndian, high, low, UInt8.ofNat_toNat]

theorem toBigEndian_bigEndian (bytes : Bytes) : toBigEndian bytes.length (bigEndian bytes) = bytes := by
  induction bytes using List.reverseRecOn with
  | nil => rfl
  | append_singleton bytes byte ih =>
      rw [bigEndian_append_byte, List.length_append, List.length_singleton, toBigEndian_append_byte, ih]

theorem bigEndian_lt (bytes : Bytes) : bigEndian bytes < 256 ^ bytes.length := by
  induction bytes using List.reverseRecOn with
  | nil => decide
  | append_singleton bytes byte ih =>
      have small := byte.toNat_lt
      rw [bigEndian_append_byte, List.length_append, List.length_singleton, Nat.pow_succ]
      omega

def putU16 (value : UInt16) : Bytes := toBigEndian 2 value.toNat
def putU32 (value : UInt32) : Bytes := toBigEndian 4 value.toNat
def putU64 (value : UInt64) : Bytes := toBigEndian 8 value.toNat
def putI32 (value : Int32) : Bytes := putU32 value.toUInt32
def putI64 (value : Int64) : Bytes := putU64 value.toUInt64

@[simp] theorem putU16_length (value : UInt16) : (putU16 value).length = 2 := by simp [putU16]
@[simp] theorem putU32_length (value : UInt32) : (putU32 value).length = 4 := by simp [putU32]
@[simp] theorem putU64_length (value : UInt64) : (putU64 value).length = 8 := by simp [putU64]
@[simp] theorem putI32_length (value : Int32) : (putI32 value).length = 4 := by simp [putI32]
@[simp] theorem putI64_length (value : Int64) : (putI64 value).length = 8 := by simp [putI64]

namespace Cursor

def getUint (width : Nat) : Cursor ε Nat := do
  let bytes ← takeBytes width
  pure (bigEndian bytes)

def getU16 : Cursor ε UInt16 := do pure (UInt16.ofNat (← getUint 2))
def getU32 : Cursor ε UInt32 := do pure (UInt32.ofNat (← getUint 4))
def getU64 : Cursor ε UInt64 := do pure (UInt64.ofNat (← getUint 8))
def getI32 : Cursor ε Int32 := do pure (← getU32).toInt32
def getI64 : Cursor ε Int64 := do pure (← getU64).toInt64

theorem getUint_of_le {width : Nat} {bytes : Bytes} (enough : width ≤ bytes.length) :
    (getUint width : Cursor ε Nat) bytes =
      .ok (bigEndian (bytes.take width), bytes.drop width) := by
  rw [getUint, bind_of_ok (takeBytes_of_le enough)]
  rfl

theorem getUint_put {width value : Nat} (fits : value < 256 ^ width) (rest : Bytes) :
    (getUint width : Cursor ε Nat) (toBigEndian width value ++ rest) = .ok (value, rest) := by
  rw [getUint, bind_of_ok (takeBytes_append _ rest (toBigEndian_length width value)),
    bigEndian_toBigEndian fits]
  rfl

theorem getUint_eq_panic {width : Nat} {bytes : Bytes} :
    (getUint width : Cursor ε Nat) bytes = .panic ↔ bytes.length < width := by
  rw [getUint, bind_eq_panic, takeBytes_eq_panic]
  simp

theorem getUint_eq_ok {width value : Nat} {bytes rest : Bytes} :
    (getUint width : Cursor ε Nat) bytes = .ok (value, rest) ↔
      value < 256 ^ width ∧ bytes = toBigEndian width value ++ rest := by
  constructor
  · intro read
    obtain ⟨front, tail, taken, returned⟩ := bind_eq_ok.mp read
    obtain ⟨shape, length⟩ := takeBytes_eq_ok.mp taken
    cases returned
    subst length
    exact ⟨bigEndian_lt front, by rw [toBigEndian_bigEndian, shape]⟩
  · intro written
    obtain ⟨fits, rfl⟩ := written
    exact getUint_put fits rest

theorem getU32_of_le {bytes : Bytes} (enough : 4 ≤ bytes.length) :
    (getU32 : Cursor ε UInt32) bytes =
      .ok (UInt32.ofNat (bigEndian (bytes.take 4)), bytes.drop 4) := by
  rw [getU32, bind_of_ok (getUint_of_le enough)]
  rfl

theorem getU64_of_le {bytes : Bytes} (enough : 8 ≤ bytes.length) :
    (getU64 : Cursor ε UInt64) bytes =
      .ok (UInt64.ofNat (bigEndian (bytes.take 8)), bytes.drop 8) := by
  rw [getU64, bind_of_ok (getUint_of_le enough)]
  rfl

theorem getI64_of_le {bytes : Bytes} (enough : 8 ≤ bytes.length) :
    (getI64 : Cursor ε Int64) bytes =
      .ok ((UInt64.ofNat (bigEndian (bytes.take 8))).toInt64, bytes.drop 8) := by
  rw [getI64, bind_of_ok (getU64_of_le enough)]
  rfl

@[simp] theorem getU16_put (value : UInt16) (rest : Bytes) :
    (getU16 : Cursor ε UInt16) (putU16 value ++ rest) = .ok (value, rest) := by
  rw [getU16, putU16, bind_of_ok (getUint_put value.toNat_lt rest), UInt16.ofNat_toNat]
  rfl

@[simp] theorem getU32_put (value : UInt32) (rest : Bytes) :
    (getU32 : Cursor ε UInt32) (putU32 value ++ rest) = .ok (value, rest) := by
  rw [getU32, putU32, bind_of_ok (getUint_put value.toNat_lt rest), UInt32.ofNat_toNat]
  rfl

@[simp] theorem getU64_put (value : UInt64) (rest : Bytes) :
    (getU64 : Cursor ε UInt64) (putU64 value ++ rest) = .ok (value, rest) := by
  rw [getU64, putU64, bind_of_ok (getUint_put value.toNat_lt rest), UInt64.ofNat_toNat]
  rfl

@[simp] theorem getI32_put (value : Int32) (rest : Bytes) :
    (getI32 : Cursor ε Int32) (putI32 value ++ rest) = .ok (value, rest) := by
  rw [getI32, putI32, bind_of_ok (getU32_put _ rest)]
  rfl

@[simp] theorem getI64_put (value : Int64) (rest : Bytes) :
    (getI64 : Cursor ε Int64) (putI64 value ++ rest) = .ok (value, rest) := by
  rw [getI64, putI64, bind_of_ok (getU64_put _ rest)]
  rfl

theorem getU16_eq_ok {bytes rest : Bytes} {value : UInt16} :
    (getU16 : Cursor ε UInt16) bytes = .ok (value, rest) ↔ bytes = putU16 value ++ rest := by
  constructor
  · intro read
    obtain ⟨number, tail, taken, returned⟩ := bind_eq_ok.mp read
    obtain ⟨fits, rfl⟩ := getUint_eq_ok.mp taken
    cases returned
    rw [putU16, UInt16.toNat_ofNat_of_lt' fits]
  · intro written
    rw [written, getU16_put]

theorem getU16_eq_panic {bytes : Bytes} :
    (getU16 : Cursor ε UInt16) bytes = .panic ↔ bytes.length < 2 := by
  rw [getU16, bind_eq_panic, getUint_eq_panic]
  simp

theorem getU32_eq_ok {bytes rest : Bytes} {value : UInt32} :
    (getU32 : Cursor ε UInt32) bytes = .ok (value, rest) ↔ bytes = putU32 value ++ rest := by
  constructor
  · intro read
    obtain ⟨number, tail, taken, returned⟩ := bind_eq_ok.mp read
    obtain ⟨fits, rfl⟩ := getUint_eq_ok.mp taken
    cases returned
    rw [putU32, UInt32.toNat_ofNat_of_lt' fits]
  · intro written
    rw [written, getU32_put]

theorem getU32_eq_panic {bytes : Bytes} :
    (getU32 : Cursor ε UInt32) bytes = .panic ↔ bytes.length < 4 := by
  rw [getU32, bind_eq_panic, getUint_eq_panic]
  simp

theorem getI32_eq_ok {bytes rest : Bytes} {value : Int32} :
    (getI32 : Cursor ε Int32) bytes = .ok (value, rest) ↔ bytes = putI32 value ++ rest := by
  constructor
  · intro read
    obtain ⟨word, tail, taken, returned⟩ := bind_eq_ok.mp read
    cases returned
    exact getU32_eq_ok.mp taken
  · intro written
    rw [written, getI32_put]

theorem getI32_eq_panic {bytes : Bytes} :
    (getI32 : Cursor ε Int32) bytes = .panic ↔ bytes.length < 4 := by
  rw [getI32, bind_eq_panic, getU32_eq_panic]
  simp

theorem getU64_eq_ok {bytes rest : Bytes} {value : UInt64} :
    (getU64 : Cursor ε UInt64) bytes = .ok (value, rest) ↔ bytes = putU64 value ++ rest := by
  constructor
  · intro read
    obtain ⟨number, tail, taken, returned⟩ := bind_eq_ok.mp read
    obtain ⟨fits, rfl⟩ := getUint_eq_ok.mp taken
    cases returned
    rw [putU64, UInt64.toNat_ofNat_of_lt' fits]
  · intro written
    rw [written, getU64_put]

theorem getI64_eq_ok {bytes rest : Bytes} {value : Int64} :
    (getI64 : Cursor ε Int64) bytes = .ok (value, rest) ↔ bytes = putI64 value ++ rest := by
  constructor
  · intro read
    obtain ⟨word, tail, taken, returned⟩ := bind_eq_ok.mp read
    cases returned
    exact getU64_eq_ok.mp taken
  · intro written
    rw [written, getI64_put]

end Cursor

end PgCapture.Data
