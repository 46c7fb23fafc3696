import ContextStream.Proofs.Text.Digits
import ContextStream.Turtle.Token

/-!
# Texts and their tokens

A text reads as a sequence of tokens in front of every rest that does not extend its
last token. Texts that read so can be put behind each other, and the texts of the
single tokens read as themselves.
-/

namespace ContextStream.Turtle.Token

open ContextStream.Text

/-! ## Rounds -/

/-- More rounds than needed change nothing. -/
theorem readAll_of_le {rounds more : Nat} {text : List Char} {tokens : List Token}
    (read : readAll rounds text = some tokens) (le : rounds ≤ more) :
    readAll more text = some tokens := by
  induction rounds generalizing more text tokens with
  | zero =>
      cases text with
      | nil => simpa [readAll] using read
      | cons c rest => simp [readAll] at read
  | succ rounds ih =>
      obtain ⟨more, rfl⟩ := Nat.exists_eq_add_of_le' (Nat.lt_of_lt_of_le rounds.succ_pos le)
      have le := Nat.le_of_succ_le_succ le
      cases text with
      | nil => simpa [readAll] using read
      | cons c rest =>
          simp only [readAll] at read ⊢
          by_cases blank : isBlank c = true
          · rw [if_pos blank] at read ⊢
            exact ih read le
          · rw [if_neg blank] at read ⊢
            by_cases comment : c = '#'
            · rw [if_pos comment] at read ⊢
              exact ih read le
            · rw [if_neg comment] at read ⊢
              obtain ⟨⟨token, behind⟩, begun, mapped⟩ := Option.bind_eq_some_iff.mp read
              obtain ⟨others, behindRead, rfl⟩ := Option.map_eq_some_iff.mp mapped
              simp [begun, ih behindRead le]

@[simp]
theorem ofText?_nil : ofText? [] = some [] :=
  rfl

/-- Blanks stand for nothing. -/
theorem ofText?_blank {c : Char} {rest : List Char} (blank : isBlank c = true) :
    ofText? (c :: rest) = ofText? rest := by
  simp [ofText?, readAll, blank]

/-- A text that begins with a token is that token and the tokens of its rest. -/
theorem ofText?_cons {first : Char} {text rest : List Char} {token : Token}
    {tokens : List Token} (visible : isBlank first = false) (noComment : first ≠ '#')
    (begun : begin? first text = some (token, rest)) (shorter : rest.length ≤ text.length)
    (read : ofText? rest = some tokens) :
    ofText? (first :: text) = some (token :: tokens) := by
  have read := readAll_of_le read shorter
  simp [ofText?, readAll, visible, noComment, begun, read]

/-! ## Texts in front of a rest -/

/-- A text reads as tokens in front of every rest that may follow it. -/
def ReadsAs (follows : List Char → Prop) (text : List Char) (tokens : List Token) : Prop :=
  ∀ rest others, follows rest → ofText? rest = some others →
    ofText? (text ++ rest) = some (tokens ++ others)

/-- Every rest may follow a token that shows its own end. -/
def Anything (_ : List Char) : Prop :=
  True

/-- What may follow any token: a blank, a comma, or the end of the text. -/
def Boundary (rest : List Char) : Prop :=
  ∀ c ∈ rest.head?, c = ' ' ∨ c = ','

theorem boundary_cons {c : Char} {rest : List Char} (ends : c = ' ' ∨ c = ',') :
    Boundary (c :: rest) := by
  intro d dMem
  cases dMem
  exact ends

theorem Boundary.append {text rest : List Char} (first : Boundary text) (second : Boundary rest) :
    Boundary (text ++ rest) := by
  cases text with
  | nil => exact second
  | cons c text => exact boundary_cons (first c rfl)

theorem readsAs_nil (follows : List Char → Prop) : ReadsAs follows [] [] :=
  fun _ _ _ read => read

/-- A text that reads in front of everything reads in front of any rest. -/
theorem ReadsAs.restrict {text : List Char} {tokens : List Token} (follows : List Char → Prop)
    (reads : ReadsAs Anything text tokens) : ReadsAs follows text tokens :=
  fun rest others _ => reads rest others trivial

theorem ReadsAs.append {follows follows' : List Char → Prop} {front back : List Char}
    {tokens tokens' : List Token} (first : ReadsAs follows front tokens)
    (second : ReadsAs follows' back tokens')
    (fits : ∀ rest, follows' rest → follows (back ++ rest)) :
    ReadsAs follows' (front ++ back) (tokens ++ tokens') := by
  intro rest others following read
  rw [List.append_assoc, List.append_assoc]
  exact first _ _ (fits rest following) (second rest others following read)

/-- Anything may follow a text that reads in front of everything. -/
theorem ReadsAs.before {follows : List Char → Prop} {front back : List Char}
    {tokens tokens' : List Token} (first : ReadsAs Anything front tokens)
    (second : ReadsAs follows back tokens') :
    ReadsAs follows (front ++ back) (tokens ++ tokens') :=
  first.append second fun _ _ => trivial

theorem readsAs_blanks (blanks : List Char) (all : blanks.all isBlank = true) :
    ReadsAs Anything blanks [] := by
  intro rest others _ read
  induction blanks with
  | nil => exact read
  | cons c blanks ih =>
      simp only [List.all_cons, Bool.and_eq_true] at all
      rw [List.cons_append, ofText?_blank all.1]
      exact ih all.2

/-! ## Punctuation -/

theorem readsAs_stop : ReadsAs Anything ['.'] [.stop] := by
  intro rest others _ read
  exact ofText?_cons rfl (by decide) rfl (Nat.le_refl _) read

theorem readsAs_comma : ReadsAs Anything [','] [.comma] := by
  intro rest others _ read
  exact ofText?_cons rfl (by decide) rfl (Nat.le_refl _) read

theorem readsAs_semicolon : ReadsAs Anything [';'] [.semicolon] := by
  intro rest others _ read
  exact ofText?_cons rfl (by decide) rfl (Nat.le_refl _) read

theorem readsAs_directive : ReadsAs Anything ("@prefix ".toList) [.directive] := by
  intro rest others _ read
  have letters : "prefix".toList.all Char.isAlpha = true := by decide
  have cut : cutAt (fun c => !c.isAlpha) ("prefix".toList ++ ' ' :: rest) =
      ("prefix".toList, ' ' :: rest) := by
    refine cutAt_append_of_head (fun c cMem => ?_) (by simp)
    rw [List.all_eq_true.mp letters c cMem]
    rfl
  have begun : begin? '@' ("prefix".toList ++ ' ' :: rest) = some (.directive, ' ' :: rest) := by
    rw [begin?, if_neg (by decide), if_neg (by decide), if_neg (by decide),
      if_neg (by decide), if_pos rfl, cut]
    exact if_pos rfl
  refine ofText?_cons rfl (by decide) begun (by simp) ?_
  rw [ofText?_blank rfl]
  exact read

/-! ## Nodes -/

/-- A reference is read as it stands. -/
theorem readsAs_reference {text : List Char} (legal : text.all isReferenceChar = true) :
    ReadsAs Anything ('<' :: text ++ ['>']) [.reference text] := by
  intro rest others _ read
  have open? : ∀ c ∈ text, (c == '>') = false := by
    intro c cMem
    have plain := List.all_eq_true.mp legal c cMem
    simp [isReferenceChar] at plain
    simp [plain]
  have cut : cutAt (· == '>') (text ++ '>' :: rest) = (text, '>' :: rest) :=
    cutAt_append_of_head open? (by simp)
  simp only [List.cons_append, List.append_assoc, List.nil_append]
  refine ofText?_cons rfl (by decide) ?_ (by simp; omega) read
  simp [begin?, cut, legal]

/-- A run without full stops is kept whole. -/
theorem trimStops_of_notMem {run : List Char} (noStop : '.' ∉ run) : trimStops run = (run, 0) := by
  have kept : run.reverse.dropWhile (· == '.') = run.reverse := by
    cases reversed : run.reverse with
    | nil => rfl
    | cons last front =>
        have lastMem : last ∈ run := by
          rw [← List.mem_reverse, reversed]
          exact List.mem_cons_self
        apply List.dropWhile_cons_of_neg
        rw [beq_iff_eq]
        rintro rfl
        exact noStop lastMem
  simp only [trimStops, kept, List.reverse_reverse, Nat.sub_self]

theorem isDigit_of_isAlpha {c : Char} (letter : c.isAlpha = true) : c.isDigit = false := by
  unfold Char.isAlpha Char.isUpper Char.isLower at letter
  simp only [Bool.or_eq_true, Bool.and_eq_true, decide_eq_true_eq,
    UInt32.le_iff_toNat_le] at letter
  simp only [Char.isDigit, Bool.and_eq_false_iff, decide_eq_false_iff_not,
    UInt32.le_iff_toNat_le]
  simp at letter ⊢
  omega

/-- A run of characters of names that begins with a letter is read as one token. -/
theorem readsAs_run {first : Char} {run : List Char} {token : Token}
    (letter : first.isAlpha = true) (runs : ∀ c ∈ first :: run, isRunChar c = true)
    (noStop : '.' ∉ first :: run) (means : ofRun? (first :: run) = some token) :
    ReadsAs Boundary (first :: run) [token] := by
  intro rest others bounded read
  have cut : cutAt (fun c => !isRunChar c) (first :: run ++ rest) = (first :: run, rest) := by
    refine cutAt_append_of_head (fun c cMem => by simp [runs c cMem]) ?_
    intro c cMem
    rcases bounded c cMem with rfl | rfl <;> decide
  have other : ∀ {c : Char}, c.isAlpha = false → first ≠ c := by
    rintro c noLetter rfl
    simp [letter] at noLetter
  rw [List.cons_append] at cut ⊢
  refine ofText?_cons ?_ (other rfl) ?_ (by simp) read
  · simp [isBlank, other]
  · simp [begin?, other, isDigit_of_isAlpha letter, cut, trimStops_of_notMem noStop, means]

/-! ## Integers -/

theorem digitsValue_toDigits (n : Nat) : digitsValue (Nat.toDigits 10 n) = n := by
  have value := Nat.ofDigitChars_ten_toDigits (n := n)
  rwa [Nat.ofDigitChars_eq_foldl] at value

/-- Decimal digits are read up to the next boundary. -/
theorem integer?_toDigits (negative : Bool) (n : Nat) {rest : List Char}
    (bounded : Boundary rest) :
    integer? negative (Nat.toDigits 10 n ++ rest) =
      some (.integer (if negative then -n else n), rest) := by
  have cut : cutAt (fun c => !c.isDigit) (Nat.toDigits 10 n ++ rest) =
      (Nat.toDigits 10 n, rest) := by
    refine cutAt_append_of_head (fun c cMem => ?_) ?_
    · simp [Nat.isDigit_of_mem_toDigits (by decide) (by decide) cMem]
    · intro c cMem
      rcases bounded c cMem with rfl | rfl <;> decide
  have nonempty : (Nat.toDigits 10 n).isEmpty = false := by
    simp [Nat.toDigits_ne_nil]
  simp only [integer?, cut, nonempty, digitsValue_toDigits, Bool.false_or]
  cases rest with
  | nil => rfl
  | cons c rest => rcases bounded c rfl with rfl | rfl <;> rfl

/-- An integer is read as it is written. -/
theorem readsAs_integer (value : Int) :
    ReadsAs Boundary (toString value).toList [.integer value] := by
  intro rest others bounded read
  cases value with
  | ofNat n =>
      have digits := integer?_toDigits false n bounded
      obtain ⟨first, behind, split⟩ :=
        List.exists_cons_of_ne_nil (Nat.toDigits_ne_nil (b := 10) (n := n))
      have digit : first.isDigit = true :=
        Nat.isDigit_of_mem_toDigits (by decide) (by decide) (split ▸ List.mem_cons_self)
      have other : ∀ {c : Char}, c.isDigit = false → first ≠ c := by
        rintro c noDigit rfl
        simp [digit] at noDigit
      rw [toList_toString_ofNat]
      rw [split, List.cons_append] at digits ⊢
      refine ofText?_cons ?_ (other rfl) ?_ (by simp) read
      · simp [isBlank, other]
      · simpa [begin?, other, digit] using digits
  | negSucc n =>
      have digits := integer?_toDigits true (n + 1) bounded
      rw [toList_toString_negSucc, List.cons_append]
      refine ofText?_cons rfl (by decide) ?_ (by simp) read
      simpa [begin?, Int.negSucc_eq] using digits

end ContextStream.Turtle.Token
