import ContextStream.Proofs.Iri.Words
import ContextStream.Proofs.Text.Pieces
import ContextStream.Url.Ipv6
import Mathlib.Tactic.IntervalCases

/-!
# What is read as an IPv6 address

A text that is read as an IPv6 address is one by the grammar of URIs: its groups are
counted, and each number is written as the grammar has it.
-/

namespace ContextStream.Url.Ipv6

open ContextStream.Text ContextStream.Iri.Grammar
open scoped Computability

/-! ## Numbers -/

theorem isDigit_iff (c : Char) : c.isDigit = true ↔ '0' ≤ c ∧ c ≤ '9' := by
  rw [Char.isDigit, Bool.and_eq_true, decide_eq_true_eq, decide_eq_true_eq]
  exact Iff.rfl

theorem isHexDigit_iff (c : Char) : isHexDigit c = true ↔ (Hex.value? c).isSome := by
  unfold Hex.value?
  simp only [isHexDigit, Bool.or_eq_true, isDigit_iff, Bool.and_eq_true, decide_eq_true_eq]
  split_ifs with digit small capital <;> simp_all

/-- A fold that may fail has taken all elements if it has not failed. -/
theorem forall_of_foldlM {α β : Type} {step : β → α → Option β} {accepts : α → Prop}
    (needs : ∀ state a next, step state a = some next → accepts a) {items : List α}
    {state result : β} (folded : items.foldlM step state = some result) :
    ∀ a ∈ items, accepts a := by
  induction items generalizing state with
  | nil => nofun
  | cons a items ih =>
      obtain ⟨next, stepped, rest⟩ := Option.bind_eq_some_iff.mp folded
      intro b member
      rcases List.mem_cons.mp member with rfl | behind
      · exact needs state b next stepped
      · exact ih rest b behind

theorem mem_group_of_piece? {text : List Char} {value : Nat} (read : piece? text = some value) :
    text ∈ group := by
  unfold piece? at read
  split at read
  · cases read
  · next fits =>
      have digits : ∀ c ∈ text, isHexDigit c = true := by
        refine forall_of_foldlM (fun n c next taken => ?_) read
        obtain ⟨digit, is, -⟩ := Option.map_eq_some_iff.mp taken
        rw [isHexDigit_iff, is]
        rfl
      cases text with
      | nil => simp at fits
      | cons c text =>
          have few : text.length ≤ 3 := by
            simp only [List.isEmpty_cons, Bool.false_eq_true, List.length_cons, false_or,
              Nat.not_lt] at fits
            omega
          exact Language.append_mem_mul (singleton_mem_one (digits c List.mem_cons_self))
            (mem_atMost_one (fun d member => digits d (List.mem_cons_of_mem c member)) few)

theorem toNat_of_isDigit {c : Char} (digit : c.isDigit = true) : 48 ≤ c.toNat ∧ c.toNat ≤ 57 := by
  rw [isDigit_iff] at digit
  exact digit

theorem eq_of_toNat {c d : Char} (same : c.toNat = d.toNat) : c = d :=
  Char.toNat_inj.mp same

/-- A digit that is not zero. -/
theorem isNonzero_of_isDigit {c : Char} (digit : c.isDigit = true) (nonzero : c ≠ '0') :
    ('1' ≤ c && c ≤ '9') = true := by
  have bounds := toNat_of_isDigit digit
  have not48 : c.toNat ≠ 48 := fun same => nonzero (eq_of_toNat same)
  rw [Bool.and_eq_true, decide_eq_true_eq, decide_eq_true_eq]
  change 49 ≤ c.toNat ∧ c.toNat ≤ 57
  omega

/-- The value of digits in front of which others have the value `n`. -/
def decimal (n : Nat) (digits : List Char) : Nat :=
  digits.foldl (fun n c => 10 * n + (c.toNat - 48)) n

theorem decimal_of_foldlM {digits : List Char} {n value : Nat}
    (read :
      digits.foldlM (fun n c => if c.isDigit then some (10 * n + (c.toNat - 48)) else none) n =
        some value) : decimal n digits = value := by
  induction digits generalizing n with
  | nil => exact Option.some.inj read
  | cons c digits ih =>
      obtain ⟨next, stepped, rest⟩ := Option.bind_eq_some_iff.mp read
      dsimp only at stepped
      split at stepped
      · cases stepped
        exact ih rest
      · cases stepped

/-- A byte has at most three digits, the first of which is zero only if it is alone. -/
theorem digits_of_byte? {text : List Char} {value : Nat} (read : byte? text = some value) :
    text ≠ [] ∧ text.length ≤ 3 ∧ (∀ c ∈ text, c.isDigit = true) ∧
      (∀ rest, text = '0' :: rest → rest = []) ∧ decimal 0 text ≤ 255 := by
  unfold byte? at read
  split at read
  · cases read
  · cases read
  · next nonempty noZero =>
      split at read
      · cases read
      · next short =>
          split at read
          · next n folded =>
              split at read
              · next bounded =>
                  refine ⟨nonempty, Nat.le_of_not_lt short, ?_, ?_, ?_⟩
                  · refine forall_of_foldlM (fun n c next taken => ?_) folded
                    split at taken
                    · next digit => exact digit
                    · cases taken
                  · rintro (_ | ⟨d, rest⟩) is
                    · rfl
                    · exact absurd is (noZero d rest)
                  · rw [decimal_of_foldlM folded]
                    exact bounded
              · cases read
          · cases read

theorem one_mul_mem {admits : Char → Bool} {c : Char} {rule : Language Char} {word : List Char}
    (admitted : admits c = true) (is : word ∈ rule) : c :: word ∈ one admits * rule :=
  Language.append_mem_mul (singleton_mem_one admitted) is

theorem mem_octet_of_byte? {text : List Char} {value : Nat} (read : byte? text = some value) :
    text ∈ octet := by
  obtain ⟨nonempty, short, digits, noZero, bounded⟩ := digits_of_byte? read
  match text with
  | [] => exact absurd rfl nonempty
  | [a] => exact Or.inl (Or.inl (Or.inl (Or.inl (singleton_mem_one (digits a (by simp))))))
  | [a, b] =>
      have first := isNonzero_of_isDigit (digits a (by simp)) (by rintro rfl; cases noZero _ rfl)
      have second := singleton_mem_one (digits b (by simp))
      exact Or.inl (Or.inl (Or.inl (Or.inr (one_mul_mem first second))))
  | [a, b, c] =>
      have first := isNonzero_of_isDigit (digits a (by simp)) (by rintro rfl; cases noZero _ rfl)
      rw [Bool.and_eq_true, decide_eq_true_eq, decide_eq_true_eq] at first
      have aBounds : 49 ≤ a.toNat ∧ a.toNat ≤ 57 := first
      have bBounds := toNat_of_isDigit (digits b (by simp))
      have cBounds := toNat_of_isDigit (digits c (by simp))
      have third := singleton_mem_one (digits c (by simp))
      simp only [decimal, List.foldl_cons, List.foldl_nil] at bounded
      -- The first digit is one, or it is two and the second one is below five, or both are
      -- as large as they may be.
      have cases : a.toNat = 49 ∨ a.toNat = 50 ∧ b.toNat ≤ 52 ∨
          a.toNat = 50 ∧ b.toNat = 53 ∧ c.toNat ≤ 53 := by
        omega
      rcases cases with one | ⟨two, below⟩ | ⟨two, five, upTo⟩
      · obtain rfl : a = '1' := eq_of_toNat one
        have second := singleton_mem_one (digits b (by simp))
        exact Or.inl (Or.inl (Or.inr
          (Language.append_mem_mul (Language.append_mem_mul (mem_sign '1') second) third)))
      · obtain rfl : a = '2' := eq_of_toNat two
        have second : ('0' ≤ b && b ≤ '4') = true := by
          rw [Bool.and_eq_true, decide_eq_true_eq, decide_eq_true_eq]
          exact ⟨bBounds.1, below⟩
        exact Or.inl (Or.inr (Language.append_mem_mul
          (Language.append_mem_mul (mem_sign '2') (singleton_mem_one second)) third))
      · obtain rfl : a = '2' := eq_of_toNat two
        obtain rfl : b = '5' := eq_of_toNat five
        have last : ('0' ≤ c && c ≤ '5') = true := by
          rw [Bool.and_eq_true, decide_eq_true_eq, decide_eq_true_eq]
          exact ⟨cBounds.1, upTo⟩
        exact Or.inr (Language.append_mem_mul
          (Language.append_mem_mul (mem_sign '2') (mem_sign '5')) (singleton_mem_one last))
  | _ :: _ :: _ :: _ :: _ =>
      simp only [List.length_cons] at short
      omega

/-- What is read as two groups in dotted form is an IPv4 address. -/
theorem mem_ipv4Address_of_dotted? {text : List Char} {values : List Nat}
    (read : dotted? text = some values) : text ∈ ipv4Address ∧ values.length = 2 := by
  unfold dotted? at read
  split at read
  · next a b c d parts =>
      cases read
      refine ⟨?_, rfl⟩
      have octets := (forall₂_of_mapM parts).imp fun _ _ => mem_octet_of_byte?
      rw [← joinWith_splitBy '.' text]
      match pieces : splitBy (· == '.') text, octets with
      | [_, _, _, _], .cons p (.cons q (.cons r (.cons s .nil))) =>
          have first := Language.append_mem_mul p (mem_sign '.')
          have second := Language.append_mem_mul (Language.append_mem_mul first q) (mem_sign '.')
          have third := Language.append_mem_mul (Language.append_mem_mul second r) (mem_sign '.')
          have whole := Language.append_mem_mul third s
          simpa [ipv4Address, joinWith] using whole
  · cases read

/-! ## Runs of groups -/

/-- Groups, each with its colon. -/
def colonized (groups : List (List Char)) : List Char :=
  (groups.map (· ++ [':'])).flatten

theorem mem_groupColon {groups : List (List Char)} (all : ∀ text ∈ groups, text ∈ group) :
    ∀ text ∈ groups.map (· ++ [':']), text ∈ groupColon := by
  intro text member
  obtain ⟨front, isGroup, rfl⟩ := List.mem_map.mp member
  exact Language.append_mem_mul (all front isGroup) (mem_sign ':')

/-- A run of groups: some with their colons, and a last one, which may be an IPv4 address
in the place of two. -/
inductive Run (text : List Char) (count : Nat) : Prop
  | plain (groups : List (List Char)) (last : List Char) (isText : text = colonized groups ++ last)
      (all : ∀ text ∈ groups, text ∈ group) (isLast : last ∈ group)
      (isCount : count = groups.length + 1)
  | dotted (groups : List (List Char)) (last : List Char) (isText : text = colonized groups ++ last)
      (all : ∀ text ∈ groups, text ∈ group) (isLast : last ∈ ipv4Address) (hasDot : '.' ∈ last)
      (isCount : count = groups.length + 2)

theorem run_of_pieces? {texts : List (List Char)} {values : List Nat} (nonempty : texts ≠ [])
    (read : pieces? texts = some values) : Run (joinWith [':'] texts) values.length := by
  induction texts generalizing values with
  | nil => exact absurd rfl nonempty
  | cons text texts ih =>
      cases texts with
      | nil =>
          simp only [pieces?] at read
          split at read
          · next hasDot =>
              obtain ⟨isLast, two⟩ := mem_ipv4Address_of_dotted? read
              exact .dotted [] text (by simp [joinWith, colonized]) (List.forall_mem_nil _) isLast
                (by simpa using hasDot) two
          · obtain ⟨value, is, rfl⟩ := Option.map_eq_some_iff.mp read
            exact .plain [] text (by simp [joinWith, colonized]) (List.forall_mem_nil _)
              (mem_group_of_piece? is) rfl
      | cons next texts =>
          simp only [pieces?] at read
          obtain ⟨value, first, rest⟩ := Option.bind_eq_some_iff.mp read
          obtain ⟨others, behind, rfl⟩ := Option.map_eq_some_iff.mp rest
          have isGroup := mem_group_of_piece? first
          have joined : joinWith [':'] (text :: next :: texts) =
              text ++ [':'] ++ joinWith [':'] (next :: texts) := by
            simp [joinWith]
          have extend : ∀ {groups : List (List Char)}, (∀ text ∈ groups, text ∈ group) →
              ∀ other ∈ text :: groups, other ∈ group := by
            intro groups all other member
            rcases List.mem_cons.mp member with rfl | inGroups
            · exact isGroup
            · exact all other inGroups
          rw [joined, List.length_cons]
          cases ih (List.cons_ne_nil next texts) behind with
          | plain groups last isText all isLast isCount =>
              exact .plain (text :: groups) last (by simp [isText, colonized]) (extend all) isLast
                (by simp [isCount])
          | dotted groups last isText all isLast hasDot isCount =>
              exact .dotted (text :: groups) last (by simp [isText, colonized]) (extend all) isLast
                hasDot (by simp [isCount])

theorem run_of_run? {text : List Char} {values : List Nat} (read : run? text = some values) :
    text = [] ∧ values.length = 0 ∨ Run text values.length := by
  unfold run? at read
  split at read
  · next empty =>
      cases read
      exact Or.inl ⟨List.isEmpty_iff.mp empty, rfl⟩
  · have run := run_of_pieces? (splitBy_ne_nil _ _) read
    rw [joinWith_splitBy] at run
    exact Or.inr run

/-- The end of an address: no group, one, or the last two behind any number of others. -/
theorem mem_of_run {text : List Char} {count : Nat} (run : Run text count) :
    (count = 1 ∧ text ∈ group) ∨
      ∃ others, count = others + 2 ∧ text ∈ groupColon ^ others * lastGroups := by
  cases run with
  | plain groups last isText all isLast isCount =>
      subst isText isCount
      rcases List.eq_nil_or_concat' groups with rfl | ⟨front, second, rfl⟩
      · exact Or.inl ⟨rfl, isLast⟩
      · refine Or.inr ⟨front.length, by simp, ?_⟩
        have inFront := flatten_mem_pow
          (mem_groupColon fun text member => all text (List.mem_append_left _ member))
        rw [List.length_map] at inFront
        have two : second ++ [':'] ++ last ∈ lastGroups :=
          Or.inl (Language.append_mem_mul
            (Language.append_mem_mul (all second (by simp)) (mem_sign ':')) isLast)
        have whole := Language.append_mem_mul inFront two
        simpa [colonized] using whole
  | dotted groups last isText all isLast hasDot isCount =>
      subst isText isCount
      have inFront := flatten_mem_pow (mem_groupColon all)
      rw [List.length_map] at inFront
      exact Or.inr ⟨groups.length, rfl, Language.append_mem_mul inFront (Or.inr isLast)⟩

/-- What stands in front of two colons. -/
theorem mem_frontGroups {text : List Char} {values : List Nat} {count : Nat}
    (read : run? text = some values) (noDot : '.' ∉ text) (few : values.length ≤ count + 1) :
    text ∈ frontGroups count := by
  rcases run_of_run? read with ⟨rfl, -⟩ | run
  · exact nil_mem_optional
  · cases run with
    | plain groups last isText all isLast isCount =>
        subst isText
        refine mem_optional_of_mem (Language.append_mem_mul ?_ isLast)
        apply flatten_mem_atMost (mem_groupColon all)
        rw [List.length_map]
        omega
    | dotted groups last isText all isLast hasDot isCount =>
        exact absurd (isText ▸ List.mem_append_right _ hasDot) noDot

theorem append_of_splitDouble {before text front back : List Char}
    (split : splitDouble before text = some (front, back)) :
    before.reverse ++ text = front ++ ':' :: ':' :: back := by
  fun_induction splitDouble before text with
  | case1 before after =>
      cases split
      rfl
  | case2 before c rest _ ih =>
      rw [← ih split]
      simp
  | case3 => cases split

/-- An address of eight groups. -/
theorem mem_ipv6Address_of_run {text : List Char} (run : Run text 8) : text ∈ ipv6Address := by
  rcases mem_of_run run with ⟨one, -⟩ | ⟨others, count, whole⟩
  · cases one
  · obtain rfl : others = 6 := by omega
    simp only [ipv6Address, Language.mem_add]
    tauto

/-- An address with two colons in the place of at least one group. -/
theorem mem_ipv6Address_of_halves {front back : List Char} {first last : List Nat}
    (isFirst : run? front = some first) (noDot : '.' ∉ front) (isLast : run? back = some last)
    (few : first.length + last.length ≤ 7) : front ++ ':' :: ':' :: back ∈ ipv6Address := by
  have colons : [':', ':'] ∈ doubleColon := Language.append_mem_mul (mem_sign ':') (mem_sign ':')
  have begins : ∀ count, first.length ≤ count + 1 →
      front ++ [':', ':'] ∈ frontGroups count * doubleColon :=
    fun count fits => Language.append_mem_mul (mem_frontGroups isFirst noDot fits) colons
  have whole : front ++ ':' :: ':' :: back = front ++ [':', ':'] ++ back := by simp
  rw [whole]
  simp only [ipv6Address, Language.mem_add]
  rcases run_of_run? isLast with ⟨rfl, none⟩ | run
  · have fits := begins 6 (by omega)
    rw [List.append_nil]
    tauto
  · rcases mem_of_run run with ⟨one, isGroup⟩ | ⟨others, count, isEnd⟩
    · have fits := Language.append_mem_mul (begins 5 (by omega)) isGroup
      tauto
    · -- Each further group behind the colons leaves one less in front of them.
      have most : others ≤ 5 := by omega
      interval_cases others
      · have fits := Language.append_mem_mul (begins 4 (by omega)) isEnd
        rw [pow_zero, one_mul] at fits
        tauto
      · have fits := Language.append_mem_mul (begins 3 (by omega)) isEnd
        rw [pow_one, ← mul_assoc] at fits
        tauto
      · have fits := Language.append_mem_mul (begins 2 (by omega)) isEnd
        rw [← mul_assoc] at fits
        tauto
      · have fits := Language.append_mem_mul (begins 1 (by omega)) isEnd
        rw [← mul_assoc] at fits
        tauto
      · have fits := Language.append_mem_mul (begins 0 (by omega)) isEnd
        rw [← mul_assoc] at fits
        tauto
      · have noFront : front = [] := by
          rcases run_of_run? isFirst with ⟨empty, -⟩ | run
          · exact empty
          · rcases mem_of_run run with ⟨one, -⟩ | ⟨more, isCount, -⟩ <;> omega
        have fits := Language.append_mem_mul colons isEnd
        rw [← mul_assoc] at fits
        subst noFront
        rw [List.nil_append]
        tauto

/-- A text that is read as an IPv6 address is one. -/
theorem mem_ipv6Address_of_parse {text : List Char} {values : List Nat}
    (read : parse text = .ok values) : text ∈ ipv6Address := by
  unfold parse at read
  dsimp only at read
  split at read
  · next pieces found =>
      split at found
      · obtain ⟨values, isRun, eight⟩ := Option.bind_eq_some_iff.mp found
        split at eight
        · next count =>
            rcases run_of_run? isRun with ⟨-, none⟩ | run
            · omega
            · exact mem_ipv6Address_of_run (count ▸ run)
        · cases eight
      · next front back split =>
          split at found
          · cases found
          · next noDot =>
              split at found
              · next first last isFirst isLast =>
                  split at found
                  · next few =>
                      have whole := append_of_splitDouble split
                      rw [List.reverse_nil, List.nil_append] at whole
                      rw [whole]
                      exact mem_ipv6Address_of_halves isFirst (by simpa using noDot) isLast few
                  · cases found
              · cases found
  · cases read

end ContextStream.Url.Ipv6
