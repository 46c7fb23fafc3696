import ContextStream.Proofs.Text.Pieces
import ContextStream.Proofs.Text.Utf8
import ContextStream.Proofs.Unicode.Normalization
import ContextStream.Url.Host

/-!
# What no domain name holds

The forbidden signs of ASCII survive all steps in which a domain name is made: escapes
are undone, characters are folded and normalized, Punycode is undone. So a text that
holds such a sign is refused in the end, however it is disguised.
-/

namespace ContextStream.Text

/-! ## Bytes -/

namespace Utf8

/-- A unit takes only bytes that continue a sequence, beside its first one. -/
theorem exists_continuations (first : UInt8) (rest : List UInt8) :
    ∃ taken, rest = taken ++ (unit first rest).2 ∧ ∀ byte ∈ taken, isContinuation byte = true := by
  unfold unit
  repeat' split
  all_goals first
    | exact ⟨[], rfl, nofun⟩
    | exact ⟨[_], rfl, by simp_all [secondFits_iff]⟩
    | exact ⟨[_, _], rfl, by simp_all [secondFits_iff]⟩
    | exact ⟨[_, _, _], rfl, by simp_all [secondFits_iff]⟩

/-- A byte below 128 is in no unit that another one begins. -/
theorem mem_of_unit {first byte : UInt8} {rest : List UInt8} (small : byte.toNat < 128)
    (member : byte ∈ rest) : byte ∈ (unit first rest).2 := by
  obtain ⟨taken, whole, continues⟩ := exists_continuations first rest
  rw [whole] at member
  rcases List.mem_append.mp member with inTaken | behind
  · have large := (isContinuation_iff.mp (continues byte inTaken)).1
    omega
  · exact behind

theorem mem_unitsAfter {byte : UInt8} (small : byte.toNat < 128) {seen : List (Option Char)}
    {bytes : List UInt8} (member : some (Char.ofNat byte.toNat) ∈ seen ∨ byte ∈ bytes) :
    some (Char.ofNat byte.toNat) ∈ unitsAfter seen bytes := by
  fun_induction unitsAfter seen bytes with
  | case1 seen => exact List.mem_reverse.mpr (member.resolve_right nofun)
  | case2 seen first rest ih =>
      apply ih
      rcases member with before | inBytes
      · exact Or.inl (List.mem_cons_of_mem _ before)
      · rcases List.mem_cons.mp inBytes with rfl | behind
        · rw [unit_of_one rest small]
          exact Or.inl List.mem_cons_self
        · exact Or.inr (mem_of_unit small behind)

/-- Lenient reading keeps the characters of ASCII. -/
theorem mem_decodeLossy {byte : UInt8} (small : byte.toNat < 128) {bytes : List UInt8}
    (member : byte ∈ bytes) : Char.ofNat byte.toNat ∈ decodeLossy bytes := by
  have isUnit : some (Char.ofNat byte.toNat) ∈ unitsAfter [] bytes :=
    mem_unitsAfter small (Or.inr member)
  exact List.mem_map.mpr ⟨_, isUnit, rfl⟩

end Utf8

namespace Percent

variable {c : Char}

theorem byte_mem_utf8EncodeChar (ascii : c.toNat < 128) :
    UInt8.ofNat c.toNat ∈ String.utf8EncodeChar c := by
  have small : c.toNat ≤ 127 := Nat.le_of_lt_succ ascii
  simp [String.utf8EncodeChar, small]

/-- Undoing escapes keeps the signs that belong to none. -/
theorem mem_decodeAfter (ascii : c.toNat < 128) (noPercent : c ≠ '%')
    (noDigit : Hex.value? c = none) {seen : List UInt8} {text : List Char}
    (member : UInt8.ofNat c.toNat ∈ seen ∨ c ∈ text) :
    UInt8.ofNat c.toNat ∈ decodeAfter seen text := by
  have kept : ∀ {byte : UInt8} {seen : List UInt8} {rest : List Char},
      UInt8.ofNat c.toNat ∈ seen ∨ c ∈ '%' :: rest →
        UInt8.ofNat c.toNat ∈ byte :: seen ∨ c ∈ rest := by
    intro byte seen rest member
    rcases member with before | behind
    · exact Or.inl (List.mem_cons_of_mem byte before)
    · exact Or.inr (List.mem_of_ne_of_mem noPercent behind)
  fun_induction decodeAfter seen text with
  | case1 seen => exact List.mem_reverse.mpr (member.resolve_right nofun)
  | case2 seen high low rest h l isLow isHigh ih =>
      apply ih
      refine (kept member).imp_right fun behind => ?_
      rcases List.mem_cons.mp behind with rfl | behind
      · rw [noDigit] at isHigh
        cases isHigh
      · rcases List.mem_cons.mp behind with rfl | behind
        · rw [noDigit] at isLow
          cases isLow
        · exact behind
  | case3 seen high low rest noEscape ih => exact ih (kept member)
  | case4 seen last ih => exact ih (kept member)
  | case5 seen ih => exact ih (kept member)
  | case6 seen d rest noEscape ih =>
      apply ih
      rcases member with before | inText
      · exact Or.inl (List.mem_append_right _ before)
      · rcases List.mem_cons.mp inText with rfl | behind
        · have isByte := List.mem_reverse.mpr (byte_mem_utf8EncodeChar ascii)
          exact Or.inl (List.mem_append_left _ isByte)
        · exact Or.inr behind

/-- Undoing escapes and reading the bytes keeps the signs that belong to no escape. -/
theorem mem_decodeLossy_decode (ascii : c.toNat < 128) (noPercent : c ≠ '%')
    (noDigit : Hex.value? c = none) {text : List Char} (member : c ∈ text) :
    c ∈ Utf8.decodeLossy (decode text) := by
  have isByte : UInt8.ofNat c.toNat ∈ decode text :=
    mem_decodeAfter ascii noPercent noDigit (Or.inr member)
  have same : (UInt8.ofNat c.toNat).toNat = c.toNat := by
    rw [UInt8.toNat_ofNat']
    omega
  have isRead := Utf8.mem_decodeLossy (by omega) isByte
  rwa [same, Char.ofNat_toNat] at isRead

end Percent

end ContextStream.Text

namespace ContextStream.Url

open ContextStream.Text ContextStream.Unicode

/-! ## Punycode -/

namespace Punycode

variable {c : Char}

/-- A number takes digits only. -/
theorem mem_of_number {bias index weight k reached : Nat} {text rest : List Char}
    (read : number bias index weight k text = some (reached, rest)) (noDigit : value? c = none)
    (member : c ∈ text) : c ∈ rest := by
  have inRest : ∀ {first : Char} {digit : Nat} {rest : List Char}, value? first = some digit →
      c ∈ first :: rest → c ∈ rest := by
    intro first digit rest isDigit member
    refine List.mem_of_ne_of_mem ?_ member
    rintro rfl
    rw [noDigit] at isDigit
    cases isDigit
  fun_induction number bias index weight k text with
  | case1 => cases read
  | case2 => cases read
  | case3 => cases read
  | case4 index weight k first others digit isDigit index' t fits last =>
      obtain ⟨-, rfl⟩ := Prod.mk.inj (Option.some.inj read)
      exact inRest isDigit member
  | case5 => cases read
  | case6 index weight k first others digit isDigit index' t fits more small ih =>
      exact ih read (inRest isDigit member)

/-- Placing characters keeps those that are there, and takes digits only. -/
theorem mem_of_place {fuel code index bias : Nat} {label text placed : List Char}
    (read : place fuel code index bias label text = some placed) (noDigit : value? c = none)
    (member : c ∈ label ∨ c ∈ text) : c ∈ placed := by
  fun_induction place fuel code index bias label text with
  | case1 =>
      cases read
      exact member.resolve_right nofun
  | case2 => cases read
  | case3 => cases read
  | case4 code index bias label fuel text nonempty reached rest isNumber points bias' code' position
      valid ih =>
      apply ih read
      rcases member with inLabel | inText
      · have within : position ≤ label.length := Nat.le_of_lt_succ (Nat.mod_lt _ (Nat.succ_pos _))
        exact Or.inl ((List.mem_insertIdx within).mpr (Or.inr inLabel))
      · exact Or.inr (mem_of_number isNumber noDigit inText)
  | case5 => cases read

/-- Taking apart at the last hyphen loses no more than the hyphen. -/
theorem mem_of_splitLastHyphen {text : List Char} (noHyphen : c ≠ '-') (member : c ∈ text) :
    c ∈ (splitLastHyphen text).1 ∨ c ∈ (splitLastHyphen text).2 := by
  have cut := List.takeWhile_append_dropWhile (p := fun d => d ≠ '-') (l := text.reverse)
  have stop := List.head?_dropWhile_not (fun d => d ≠ '-') text.reverse
  unfold splitLastHyphen
  dsimp only
  split
  · exact Or.inr member
  · generalize text.reverse.takeWhile (fun d => d ≠ '-') = tail at *
    generalize text.reverse.dropWhile (fun d => d ≠ '-') = rest at *
    have whole : text = rest.reverse ++ tail.reverse := by
      rw [← List.reverse_append, cut, List.reverse_reverse]
    cases rest with
    | nil =>
        rw [whole] at member
        exact Or.inr (by simpa using member)
    | cons d rest =>
        obtain rfl : d = '-' := by simpa using stop
        have front : text.take (text.length - tail.reverse.length - 1) = rest.reverse := by
          have length : text.length - tail.reverse.length - 1 = rest.reverse.length := by
            simp only [whole, List.length_append, List.length_reverse, List.length_cons]
            omega
          rw [length, whole]
          simp
        rw [front]
        rw [whole] at member
        simpa [noHyphen] using member

/-- A text in Punycode stands for all its characters that are no digits. -/
theorem mem_of_decode? {text decoded : List Char} (read : decode? text = some decoded)
    (noDigit : value? c = none) (noHyphen : c ≠ '-') (member : c ∈ text) : c ∈ decoded := by
  unfold decode? at read
  dsimp only at read
  split at read
  · exact mem_of_place read noDigit (mem_of_splitLastHyphen noHyphen member)
  · cases read

end Punycode

/-! ## Domain names -/

namespace Domain

variable {c : Char}

/-- What is true of the forbidden signs that no mark turns into another sign. The signs of
comparison are left out, since a stroke composes with them. -/
structure Firm (c : Char) : Prop where
  steady : Normalization.Steady c.toNat
  isKept : domainFate c = .kept
  noDigit : Punycode.value? c = none
  apart : c ∉ ['x', 'n', '-', '.']
  isForbidden : isForbidden c = true

theorem toNat_lt_of_isForbidden (forbidden : isForbidden c = true) : c.toNat < 128 := by
  simp only [isForbidden, Bool.or_eq_true, decide_eq_true_eq, beq_iff_eq,
    ← Char.toNat_inj] at forbidden
  simp only [Char.reduceToNat] at forbidden
  omega

theorem firm_of_isForbidden (forbidden : isForbidden c = true) (noSign : c ≠ '<' ∧ c ≠ '>') :
    Firm c := by
  have small := toNat_lt_of_isForbidden forbidden
  have facts : isForbidden c = true ∧ c ≠ '<' ∧ c ≠ '>' →
      Normalization.opensPair c.toNat = false ∧ c.isUpper = false ∧ Punycode.value? c = none ∧
        c ∉ ['x', 'n', '-', '.'] :=
    forall_ascii (by decide) small
  obtain ⟨alone, noCapital, noDigit, apart⟩ := facts ⟨forbidden, noSign⟩
  have isKept : domainFate c = .kept := by simp [domainFate, small, noCapital]
  exact ⟨⟨small, alone⟩, isKept, noDigit, apart, forbidden⟩

theorem Firm.ne (firm : Firm c) {d : Char} (member : d ∈ ['x', 'n', '-', '.']) : c ≠ d := by
  rintro rfl
  exact firm.apart member

/-- Folding keeps firm characters. -/
theorem Firm.mem_fold (firm : Firm c) {name folded : List Char} (isFolded : fold name = some folded)
    (member : c ∈ name) : c ∈ folded := by
  induction name generalizing folded with
  | nil => cases member
  | cons d name ih =>
      obtain ⟨rest, behind, step⟩ := Option.bind_eq_some_iff.mp isFolded
      rcases List.mem_cons.mp member with rfl | inName
      · simp only [firm.isKept, Option.some.injEq] at step
        exact step ▸ List.mem_cons_self
      · have inRest := ih behind inName
        split at step
        · cases step
          exact List.mem_cons_of_mem d inRest
        · cases step
          exact inRest
        · cases step
          exact List.mem_append_right _ inRest
        · cases step

/-- The announcement of Punycode has no firm character. -/
theorem Firm.mem_drop (firm : Firm c) {label : List Char}
    (announces : announcesPunycode label = true) (member : c ∈ label) : c ∈ label.drop 4 := by
  rw [← List.take_append_drop 4 label, beq_iff_eq.mp announces] at member
  refine (List.mem_append.mp member).resolve_left fun inFront => firm.apart ?_
  simp only [List.mem_cons, List.not_mem_nil, or_false] at inFront ⊢
  rcases inFront with is | is | is | is <;> simp [is]

/-- What a label stands for keeps firm characters. -/
theorem Firm.mem_reveal (firm : Firm c) {label revealed : List Char}
    (isRevealed : reveal label = some revealed) (member : c ∈ label) : c ∈ revealed := by
  unfold reveal at isRevealed
  split at isRevealed
  · next announces =>
      split at isRevealed
      · cases isRevealed
      · split at isRevealed
        · cases isRevealed
        · next decoded isDecoded =>
            split at isRevealed
            · cases isRevealed
            · cases isRevealed
              exact Punycode.mem_of_decode? isDecoded firm.noDigit (firm.ne (by simp))
                (firm.mem_drop announces member)
  · split at isRevealed
    · cases isRevealed
    · cases isRevealed
      exact member

theorem Firm.labelFits_eq_false (firm : Firm c) {label : List Char} (member : c ∈ label) :
    labelFits label = false := by
  have refused : label.all (fun d => domainFate d == .kept && !Domain.isForbidden d) = false := by
    refine List.all_eq_false.mpr ⟨c, member, ?_⟩
    simp [firm.isForbidden]
  simp [labelFits, refused]

/-- A name with a firm character has no form in ASCII. -/
theorem Firm.foldedToAscii_eq_none (firm : Firm c) {name : List Char} (member : c ∈ name) :
    foldedToAscii name = none := by
  unfold foldedToAscii
  cases isFolded : fold name with
  | none => rfl
  | some folded =>
      have normal := Normalization.mem_nfc firm.steady (firm.mem_fold isFolded member)
      obtain ⟨label, isLabel, inLabel⟩ := exists_piece (firm.ne (d := '.') (by simp)) normal
      rw [Option.bind_some]
      cases isRevealed : (splitBy (· == '.') (Normalization.nfc folded)).mapM reveal with
      | none => rfl
      | some labels =>
          obtain ⟨revealed, isLabel', is⟩ := exists_of_forall₂ (forall₂_of_mapM isRevealed) isLabel
          have unfit := firm.labelFits_eq_false (firm.mem_reveal is inLabel)
          have refused : labels.all labelFits = false :=
            List.all_eq_false.mpr ⟨revealed, isLabel', by simp [unfit]⟩
          rw [Option.bind_some, if_neg (by simp only [refused, Bool.false_and]; nofun)]

/-- No name with a forbidden sign is accepted. -/
theorem Firm.toAscii_ne_ok (firm : Firm c) {name ascii : List Char} (member : c ∈ name) :
    toAscii name ≠ .ok ascii := by
  unfold toAscii
  split
  · rw [if_pos (List.any_eq_true.mpr ⟨c, member, firm.isForbidden⟩)]
    nofun
  · rw [firm.foldedToAscii_eq_none member]
    nofun

end Domain

end ContextStream.Url
