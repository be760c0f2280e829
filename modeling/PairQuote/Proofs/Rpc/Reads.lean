import PairQuote.Proofs.Address.Spelling
import PairQuote.Proofs.Rpc.Honest
import PairQuote.Proofs.Rpc.Steps
import PairQuote.Proofs.Text.LeadingZeros

/-! # Reads on the wire

What is sent for a read are three texts, which name a contract, a slot and a block: an address in
small letters and two **minimal** quantities, with no zero in front of other digits
(`NamesSlot`).  A number has one minimal quantity (`isMinimal_iff`), so a read has one row of texts
(`namesSlot_iff`), and reads with the same texts are the same (`storageParams_eq_iff`).

The slot may also be handed over as a **key**, thirty-two bytes of which the last eight are the
slot (`slotKey`), to a sender that takes the bytes for a number again and writes this
(`SendsKeys`).  On the way zeros are put in front of the slot and taken off again, and what goes
out is the same (`keyedParams_eq`).

A transport that keeps a record of the requests it is given (`Transport.recorded`) shows what is
sent, also where nothing arrives.  From the record of a run the calls that were made can be read
off in their order (`Link.calls_after`).
-/
namespace PairQuote.Rpc

variable {text : String} {texts : List String} {row : List Char} {n : Nat}
  {contract contract' : Address} {slot slot' block block' : UInt64}
  {encode : List UInt8 → String}

/-! ## Minimal quantities -/

/-- The text is `0x` and a row of digits, without capital letters, that stands for the number. -/
structure Marked (text : String) (row : List Char) (n : Nat) : Prop where
  toList : text.toList = '0' :: 'x' :: row
  small : ∀ c ∈ row, Text.IsSmallHexDigit c
  number : Text.hexNumber row = n

/-- The quantity of a number that has at least one digit, and no zero in front of others: `0x0` for
zero, and for any other number a first digit that is not zero. -/
def IsMinimal (text : String) (n : Nat) : Prop :=
  ∃ row, Marked text row n ∧ row ≠ [] ∧ (row.head? = some '0' → row = ['0'])

namespace Marked

theorem hexRow (h : Marked text row n) : Text.IsHexRow row :=
  fun c hc => (Text.isSmallHexDigit_iff.mp (h.small c hc)).1

theorem lowerChar_eq (h : Marked text row n) : ∀ c ∈ row, Text.lowerChar c = c :=
  fun c hc => (Text.isSmallHexDigit_iff.mp (h.small c hc)).2

theorem valueOf? (h : Marked text row n) : Text.valueOf? 16 row = some n :=
  Text.valueOf?_sixteen_eq_some_iff.mpr ⟨h.hexRow, h.number⟩

/-- A row that is written and read back as the number stands for it. -/
theorem of_valueOf? (htext : text.toList = '0' :: 'x' :: row)
    (hwritten : ∀ c ∈ row, ∃ d, d < 16 ∧ Text.digitChar d = c)
    (hread : Text.valueOf? 16 row = some n) : Marked text row n where
  toList := htext
  small c hc := by
    obtain ⟨d, hd, rfl⟩ := hwritten c hc
    exact Text.isSmallHexDigit_digitChar hd
  number := (Text.valueOf?_sixteen_eq_some_iff.mp hread).2

theorem of_digits (n : Nat) : Marked (quantity n) (Text.digits 16 n) n :=
  of_valueOf? (toList_quantity n) (fun c hc => Text.exists_digit_of_mem_digits (by decide) hc)
    (Text.valueOf?_digits (by decide) (by decide) n)

theorem of_fixedDigits {width : Nat} (hn : n < 16 ^ width) :
    Marked (String.ofList ('0' :: 'x' :: Text.fixedDigits 16 width n))
      (Text.fixedDigits 16 width n) n :=
  of_valueOf? String.toList_ofList
    (fun c hc => Text.exists_digit_of_mem_fixedDigits (by decide) hc)
    (Text.valueOf?_fixedDigits_of_lt (by decide) (by decide) hn)

end Marked

theorem isMinimal_quantity (n : Nat) : IsMinimal (quantity n) n := by
  refine ⟨Text.digits 16 n, .of_digits n, Text.digits_ne_nil 16 n, fun hfirst => ?_⟩
  by_cases hn : n = 0
  · rw [hn]
    exact Text.digits_zero (by decide)
  · exact absurd hfirst (Text.head?_digits_ne_zero (by decide) (by decide) hn)

/-- A row without needless zeros is the shortest row of its number. -/
theorem Marked.eq_digits (h : Marked text row n) (hsome : row ≠ [])
    (hfirst : row.head? = some '0' → row = ['0']) : row = Text.digits 16 n := by
  by_cases hzero : row.head? = some '0'
  · -- a zero in front is the only digit
    obtain rfl := hfirst hzero
    have hn : 0 = n := h.number
    rw [← hn]
    exact (Text.digits_zero (by decide)).symm
  · have hleft := Text.withoutZeros_of_valueOf? (by decide) h.lowerChar_eq h.valueOf?
    rw [Text.withoutZeros_of_head? hzero] at hleft
    exact hleft.elim (fun hnone => absurd hnone.2 hsome) (·.2)

/-- **A number has one minimal quantity**, the one that is sent. -/
theorem isMinimal_iff : IsMinimal text n ↔ text = quantity n := by
  constructor
  · rintro ⟨row, hmarked, hsome, hfirst⟩
    refine String.toList_inj.mp ?_
    rw [hmarked.toList, toList_quantity, hmarked.eq_digits hsome hfirst]
  · rintro rfl
    exact isMinimal_quantity n

/-! ## What names a read -/

/-- The text of an address in small letters. -/
def IsPlainAddress (text : String) (a : Address) : Prop :=
  ∃ row, Marked text row a.toNat ∧ row.length = 40

/-- **An address has one text in small letters**, the one that is sent. -/
theorem isPlainAddress_iff {a : Address} : IsPlainAddress text a ↔ text = a.text := by
  constructor
  · rintro ⟨row, hmarked, hlength⟩
    have hrow : Text.fixedDigits 16 40 a.toNat = row := by
      rw [← hlength, ← hmarked.number, Text.fixedDigits_hexNumber hmarked.hexRow]
      exact Text.lower_eq_self hmarked.lowerChar_eq
    refine String.toList_inj.mp ?_
    rw [hmarked.toList, Address.text, String.toList_ofList, hrow]
  · rintro rfl
    exact ⟨Text.fixedDigits 16 40 a.toNat, .of_fixedDigits a.bits.isLt, Text.length_fixedDigits ..⟩

/-- The texts name a slot of a contract at a block. -/
def NamesSlot (texts : List String) (contract : Address) (slot block : UInt64) : Prop :=
  ∃ contractText slotText blockText, texts = [contractText, slotText, blockText] ∧
    IsPlainAddress contractText contract ∧ IsMinimal slotText slot.toNat ∧
      IsMinimal blockText block.toNat

/-- **One row of texts names a read**, the one that is sent. -/
theorem namesSlot_iff : NamesSlot texts contract slot block ↔
    texts = storageParams contract slot block := by
  simp only [NamesSlot, isPlainAddress_iff, isMinimal_iff]
  constructor
  · rintro ⟨_, _, _, rfl, rfl, rfl, rfl⟩
    rfl
  · rintro rfl
    exact ⟨_, _, _, rfl, rfl, rfl, rfl⟩

/-- **Reads with the same parameters are the same.** -/
theorem storageParams_eq_iff :
    storageParams contract slot block = storageParams contract' slot' block' ↔
      contract = contract' ∧ slot = slot' ∧ block = block' := by
  constructor
  · intro h
    have hread := readTarget?_storageParams contract slot block
    rw [h, readTarget?_storageParams] at hread
    cases hread
    exact ⟨rfl, rfl, rfl⟩
  · rintro ⟨rfl, rfl, rfl⟩
    rfl

/-! ## Keys -/

/-- The key of a slot: thirty-two bytes, of which the last eight are the slot. -/
def slotKey (slot : UInt64) : List UInt8 := List.replicate 24 0 ++ bytesOf 8 slot.toNat

theorem length_slotKey (slot : UInt64) : (slotKey slot).length = 32 := by
  rw [slotKey, List.length_append, List.length_replicate, length_bytesOf]

/-- The zeros in front do not change the number. -/
theorem byteValue_slotKey (slot : UInt64) : byteValue (slotKey slot) = slot.toNat := by
  have hzeros : byteValue (List.replicate 24 0) = 0 := by decide
  have hfits : slot.toNat < 256 ^ 8 := slot.toNat_lt
  rw [slotKey, byteValue_append, hzeros, Nat.zero_mul, Nat.zero_add,
    byteValue_bytesOf_of_lt hfits]

/-- A sender of keys takes thirty-two bytes for a number, the first byte being the most
significant, and writes it as a minimal quantity. -/
def SendsKeys (encode : List UInt8 → String) : Prop :=
  ∀ key, key.length = 32 → IsMinimal (encode key) (byteValue key)

/-- The parameters of a read whose slot is handed over as its key. -/
def keyedParams (encode : List UInt8 → String) (contract : Address) (slot block : UInt64) :
    List String :=
  [contract.text, encode (slotKey slot), quantity block.toNat]

/-- **By way of its key a slot is sent as it is.** -/
theorem keyedParams_eq (hencode : SendsKeys encode) :
    keyedParams encode = storageParams := by
  funext contract slot block
  have hminimal := hencode (slotKey slot) (length_slotKey slot)
  rw [byteValue_slotKey, isMinimal_iff] at hminimal
  rw [keyedParams, hminimal, storageParams]

/-! ## What is sent -/

section Record
variable {τ : Type} (transport : Transport τ)

/-- The transport with a record of the requests it is given, whatever becomes of them. -/
def Transport.recorded : Transport (τ × List Request) where
  send request state :=
    ((transport.send request state.1).1, (transport.send request state.1).2, state.2 ++ [request])
  dialect := transport.dialect

/-- The call to a chain that a step makes. -/
def Step.call? : Step → Option Call
  | chain => none
  | latest => some .latest
  | read contract slot block => some (.read contract slot block)
  | health => some .latest
  | provider => none

namespace Link
variable (l : Link (τ × List Request))

/-- A step sends what it asks, once, and nothing more. -/
theorem record_take (step : Step) :
    (l.take transport.recorded step).2.node.2 = l.node.2 ++ l.sent step := by
  cases step with
  | provider => exact (List.append_nil _).symm
  | _ => rfl

/-- What a step sends is understood as the call that it makes. -/
theorem calls_sent (step : Step) :
    (l.sent step).filterMap Request.call? = step.call?.toList := by
  cases step with
  | read contract slot block =>
    exact List.filterMap_cons_some (Request.call?_read _ contract slot block)
  | _ => rfl

/-- **From the record of a run its calls can be read off**, in their order. -/
theorem calls_after (steps : List Step) :
    (l.after transport.recorded steps).node.2.filterMap Request.call? =
      l.node.2.filterMap Request.call? ++ steps.filterMap Step.call? := by
  induction steps generalizing l with
  | nil => exact (List.append_nil _).symm
  | cons step steps ih =>
    rw [after_cons, ih, record_take, List.filterMap_append, calls_sent, List.append_assoc]
    cases hcall : step.call? with
    | none => rw [List.filterMap_cons_none hcall]; rfl
    | some call => rw [List.filterMap_cons_some hcall]; rfl

end Link

end Record

/-! ## Reads are told apart -/

/-- What it means that reads go out with parameters by which they are told apart. -/
structure Unambiguous (params : Address → UInt64 → UInt64 → List String) : Prop where
  /-- A read is one request with these parameters, whatever becomes of it. -/
  sent : ∀ (τ : Type) (transport : Transport τ) (l : Link (τ × List Request))
    (contract : Address) (slot block : UInt64),
    (l.read transport.recorded contract slot block).2.node.2 =
      l.node.2 ++ [l.request .storageAt (some (params contract slot block))]
  /-- They are the contract in small letters and minimal quantities of the slot and the block, and
  no other texts are. -/
  namesSlot_iff : ∀ texts contract slot block,
    NamesSlot texts contract slot block ↔ texts = params contract slot block
  /-- A node understands them as what is asked for. -/
  understood : ∀ contract slot block,
    readTarget? (params contract slot block) = some (contract, slot, block)
  /-- Two reads have the same parameters exactly if they are the same in all three. -/
  eq_iff : ∀ contract slot block contract' slot' block',
    params contract slot block = params contract' slot' block' ↔
      contract = contract' ∧ slot = slot' ∧ block = block'

/-- **Reads are unambiguous on the wire**, though their slots go by way of a key; and so from what
is sent in a run, whatever becomes of it, the calls of the run can be read off. -/
theorem reads_unambiguous (hencode : SendsKeys encode) :
    Unambiguous (keyedParams encode) ∧
      ∀ (τ : Type) (transport : Transport τ) (l : Link (τ × List Request)) (steps : List Step),
        (l.after transport.recorded steps).node.2.filterMap Request.call? =
          l.node.2.filterMap Request.call? ++ steps.filterMap Step.call? := by
  rw [keyedParams_eq hencode]
  refine ⟨?_, fun τ transport l steps => l.calls_after transport steps⟩
  constructor
  · exact fun τ transport l contract slot block => rfl
  · exact fun texts contract slot block => namesSlot_iff
  · exact readTarget?_storageParams
  · exact fun contract slot block contract' slot' block' => storageParams_eq_iff

/-- A sender that writes the digits of all bytes and leaves out the zeros in front, except that it
writes one zero for zero. -/
def strippedKey (key : List UInt8) : String :=
  let row := Text.withoutZeros (Text.fixedDigits 16 64 (byteValue key))
  String.ofList ('0' :: 'x' :: if row = [] then ['0'] else row)

theorem sendsKeys_strippedKey : SendsKeys strippedKey := by
  intro key hlength
  have hfits : byteValue key < 16 ^ 64 := by
    have hlt := byteValue_lt key
    rwa [hlength] at hlt
  have hmarked := Marked.of_fixedDigits hfits
  refine isMinimal_iff.mpr (String.toList_inj.mp ?_)
  rw [strippedKey, String.toList_ofList, toList_quantity]
  rcases Text.withoutZeros_of_valueOf? (by decide) hmarked.lowerChar_eq hmarked.valueOf? with
    ⟨hvalue, hleft⟩ | ⟨-, hleft⟩
  · rw [if_pos hleft, hvalue, Text.digits_zero (by decide)]
  · rw [if_neg (hleft ▸ Text.digits_ne_nil 16 _), hleft]

/-- The slot zero at the greatest block; and a slot and a block that change places, of which one
has a zero more. -/
theorem reads_unambiguous_at_the_edges :
    keyedParams strippedKey ⟨0xB4e16d0168e52d35CaCD2c6185b44281Ec28C9Dc⟩ 0 0xffffffffffffffff =
        ["0xb4e16d0168e52d35cacd2c6185b44281ec28c9dc", "0x0", "0xffffffffffffffff"] ∧
      readTarget? ["0xb4e16d0168e52d35cacd2c6185b44281ec28c9dc", "0x0", "0xffffffffffffffff"] =
        some (⟨0xB4e16d0168e52d35CaCD2c6185b44281Ec28C9Dc⟩, 0, 0xffffffffffffffff) ∧
      keyedParams strippedKey Address.zero 0x10 0x1 ≠
        keyedParams strippedKey Address.zero 0x1 0x10 := by
  obtain ⟨unambiguous, -⟩ := reads_unambiguous sendsKeys_strippedKey
  have htexts : keyedParams strippedKey ⟨0xB4e16d0168e52d35CaCD2c6185b44281Ec28C9Dc⟩ 0
      0xffffffffffffffff =
        ["0xb4e16d0168e52d35cacd2c6185b44281ec28c9dc", "0x0", "0xffffffffffffffff"] := by
    decide +kernel
  refine ⟨htexts, htexts ▸ unambiguous.understood _ _ _, fun hsame => ?_⟩
  have hslots := ((unambiguous.eq_iff _ _ _ _ _ _).mp hsame).2.1
  exact absurd hslots (by decide)

end PairQuote.Rpc
