import LifecycleOperator.Rest.Url
import Mathlib.Data.List.DropRight

/-!
# Blanks at the end of an authority

An authority that ends in a blank is no authority: if it has a port, the port is no number,
and otherwise the blank stands in the host.  There it may be hidden behind percent signs only
as long as nothing is decoded, because every byte that is not part of an encoded one stays.
-/

namespace LifecycleOperator
namespace Url

/-! ## Bytes -/

theorem toList_loop (bytes : ByteArray) (index : Nat) (found : List UInt8) :
    ByteArray.toList.loop bytes index found =
      found.reverse ++ bytes.data.toList.drop index := by
  fun_induction ByteArray.toList.loop bytes index found with
  | case1 index found below inductionHypothesis =>
      have inside : index < bytes.data.toList.length := below
      rw [inductionHypothesis, List.reverse_cons, List.append_assoc,
        List.drop_eq_getElem_cons inside, List.singleton_append]
      have byte : bytes.get! index = bytes.data.toList[index] :=
        getElem!_pos bytes.data index below
      rw [byte]
  | case2 index found above =>
      rw [List.drop_eq_nil_of_le (Nat.not_lt.mp above), List.append_nil]

theorem toList_eq (bytes : ByteArray) : bytes.toList = bytes.data.toList :=
  toList_loop bytes 0 []

/-- The bytes of a text are those of its characters, one after the other. -/
theorem toList_toUTF8 (text : String) :
    text.toUTF8.toList = text.toList.flatMap String.utf8EncodeChar := by
  rw [toList_eq, String.toUTF8_eq_toByteArray, ← String.utf8Encode_toList, List.utf8Encode,
    List.data_toByteArray]

/-- What is no part of an encoded byte stays as it is. -/
theorem mem_decodeBytes {byte : UInt8} (notMark : byte ≠ 0x25)
    (notHex : hexValue? byte = none) {bytes : List UInt8} (member : byte ∈ bytes) :
    byte ∈ decodeBytes bytes := by
  fun_induction decodeBytes bytes with
  | case1 mark high low rest upper lower lowValue highValue isMark inductionHypothesis =>
      apply List.mem_cons_of_mem
      simp only [List.mem_cons] at member
      rcases member with rfl | rfl | rfl | inRest
      · exact absurd (by simpa using isMark) notMark
      · simp [notHex] at highValue
      · simp [notHex] at lowValue
      · exact inductionHypothesis inRest
  | case2 mark high low rest plain inductionHypothesis =>
      rcases List.mem_cons.mp member with rfl | inRest
      · exact List.mem_cons_self
      · exact List.mem_cons_of_mem _ (inductionHypothesis inRest)
  | case3 rest short => exact member

/-! ## Hosts -/

section Blanks

variable {blank : Char} (isBlank : blank.toNat ≤ 0x20)

include isBlank

theorem ne_of_isBlank {character : Char} (visible : 0x20 < character.toNat) :
    blank ≠ character := by
  rintro rfl
  omega

theorem utf8EncodeChar_of_isBlank :
    String.utf8EncodeChar blank = [UInt8.ofNat blank.toNat] := by
  have small : blank.val.toNat ≤ 0x7F := by
    change blank.toNat ≤ 0x7F
    omega
  rw [String.utf8EncodeChar]
  exact if_pos small

/-- Of the characters that may stand in a host none has the byte of a blank. -/
theorem isForbidden_of_mem_utf8EncodeChar {character : Char}
    (member : UInt8.ofNat blank.toNat ∈ String.utf8EncodeChar character) :
    isForbidden character = true := by
  by_contra allowed
  rw [isForbidden, Bool.or_eq_true, not_or] at allowed
  obtain ⟨noControl, noMark⟩ := allowed
  simp only [isControl, Bool.or_eq_true, decide_eq_true_eq, not_or, Nat.not_lt] at noControl
  have small : character.val.toNat ≤ 0x7F := by
    change character.toNat ≤ 0x7F
    omega
  rw [String.utf8EncodeChar, if_pos small, List.mem_singleton] at member
  have codes := congrArg UInt8.toNat member
  change blank.toNat % 256 = character.toNat % 256 at codes
  have space : character = ' ' := Char.toNat_inj.mp (by change character.toNat = 0x20; omega)
  exact noMark (by rw [space]; decide)

/-- The byte of a blank is neither a percent sign nor a digit behind one. -/
theorem plain_of_isBlank :
    UInt8.ofNat blank.toNat ≠ 0x25 ∧ hexValue? (UInt8.ofNat blank.toNat) = none := by
  have code : (UInt8.ofNat blank.toNat).toNat = blank.toNat := by
    change blank.toNat % 256 = blank.toNat
    omega
  constructor
  · intro same
    have codes := congrArg UInt8.toNat same
    rw [code] at codes
    change blank.toNat = 0x25 at codes
    omega
  · rw [hexValue?, code]
    have beforeDigits : ¬ 0x30 ≤ blank.toNat := by omega
    have beforeCapitals : ¬ 0x41 ≤ blank.toNat := by omega
    have beforeLetters : ¬ 0x61 ≤ blank.toNat := by omega
    simp [beforeDigits, beforeCapitals, beforeLetters]

/-- What is decoded of characters with a blank among them is no host. -/
theorem exists_isForbidden_of_decode? {host : List Char} {decoded : String}
    (member : blank ∈ host) (decodes : decode? host = some decoded) :
    ∃ character ∈ decoded.toList, isForbidden character = true := by
  have bytes : decoded.toUTF8.toList =
      decodeBytes (host.flatMap String.utf8EncodeChar) := by
    rw [decode?, String.fromUTF8?, toList_toUTF8, String.toList_ofList] at decodes
    split at decodes
    · obtain rfl := Option.some.inj decodes
      exact toList_eq _
    · cases decodes
  have encoded : UInt8.ofNat blank.toNat ∈ host.flatMap String.utf8EncodeChar := by
    refine List.mem_flatMap.mpr ⟨blank, member, ?_⟩
    rw [utf8EncodeChar_of_isBlank isBlank]
    exact List.mem_singleton_self _
  obtain ⟨notMark, notHex⟩ := plain_of_isBlank isBlank
  have kept := mem_decodeBytes notMark notHex encoded
  rw [← bytes, toList_toUTF8] at kept
  obtain ⟨character, inDecoded, part⟩ := List.mem_flatMap.mp kept
  exact ⟨character, inDecoded, isForbidden_of_mem_utf8EncodeChar isBlank part⟩

/-- A host does not end in a blank. -/
theorem host?_concat_blank (host : List Char) : host? (host ++ [blank]) = none := by
  unfold host?
  split
  next empty => rfl
  next bracketed rest written =>
    rw [List.getLast?_append_of_ne_nil _ (by simp), List.getLast?_singleton]
    refine if_neg ?_
    simpa using ne_of_isBlank isBlank (by decide : 0x20 < ']'.toNat)
  next =>
    cases decodes : decode? (host ++ [blank]) with
    | none => rfl
    | some decoded =>
        have forbidden := exists_isForbidden_of_decode? isBlank
          (List.mem_append_right host (List.mem_singleton_self blank)) decodes
        exact if_pos (List.any_eq_true.mpr forbidden)

/-- A port does not end in a blank. -/
theorem port?_concat_blank (scheme : String) (digits : List Char) :
    port? scheme (digits ++ [blank]) = none := by
  have noDigit : blank.isDigit = false := by
    by_contra digit
    simp only [Char.isDigit, Bool.not_eq_false, Bool.and_eq_true, decide_eq_true_eq] at digit
    have above : 0x30 ≤ blank.toNat := digit.1
    omega
  simp [port?, noDigit]

/-- Of an authority that ends in a blank the part behind the user ends in it. -/
theorem splitLast_concat_blank (written : List Char) :
    ∃ named, (splitLast '@' (written ++ [blank])).2 = named ++ [blank] := by
  have kept : (blank != '@') = true := by
    simpa using ne_of_isBlank isBlank (by decide : 0x20 < '@'.toNat)
  refine ⟨(written.reverse.takeWhile (· != '@')).reverse, ?_⟩
  simp [splitLast, kept]

/-- The blank at the end belongs to the port, if there is one, or else to the host. -/
theorem splitHost_concat_blank (named : List Char) :
    (∃ port, (splitHost (named ++ [blank])).2 = port ++ [blank]) ∨
      ∃ host, (splitHost (named ++ [blank])).1 = host ++ [blank] := by
  let bracketed := named.rdropWhile (· != ']')
  let rest := named.rtakeWhile (· != ']')
  have noBracket : (blank != ']') = true := by
    simpa using ne_of_isBlank isBlank (by decide : 0x20 < ']'.toNat)
  have noColon : (blank != ':') = true := by
    simpa using ne_of_isBlank isBlank (by decide : 0x20 < ':'.toNat)
  have whole : named = bracketed ++ rest := List.rdropWhile_append_rtakeWhile.symm
  have split : splitHost (named ++ [blank]) =
      (bracketed ++ (rest ++ [blank]).takeWhile (· != ':'),
        ((rest ++ [blank]).dropWhile (· != ':')).drop 1) := by
    have bracketedSame :
        ((named ++ [blank]).reverse.dropWhile (· != ']')).reverse = bracketed :=
      List.rdropWhile_concat_pos _ _ blank noBracket
    have restSame : (named ++ [blank]).drop bracketed.length = rest ++ [blank] := by
      rw [whole, List.append_assoc, List.drop_left]
    simp only [splitHost, bracketedSame, restSame]
  rw [split]
  cases behindColon : rest.dropWhile (· != ':') with
  | nil =>
      right
      have unported : ∀ character ∈ rest ++ [blank], (character != ':') = true := by
        rw [List.forall_mem_append]
        exact ⟨List.dropWhile_eq_nil_iff.mp behindColon, by simpa using noColon⟩
      refine ⟨bracketed ++ rest, ?_⟩
      rw [List.takeWhile_eq_self_iff.mpr unported, List.append_assoc]
  | cons colon port =>
      left
      refine ⟨port, ?_⟩
      rw [List.dropWhile_append, behindColon]
      rfl

end Blanks
end Url
end LifecycleOperator
