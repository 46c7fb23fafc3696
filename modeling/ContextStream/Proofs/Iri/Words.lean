import ContextStream.Proofs.Iri.Grammar
import ContextStream.Text.Split

/-!
# The words of the grammar

A rule that repeats characters and escapes is known by the characters it holds, if only
each percent sign begins an escape. So are paths, which repeat such rules. Of hosts only a
bound is needed: they hold no sign that divides an IRI.
-/

namespace ContextStream.Iri.Grammar

open scoped Computability

/-! ## Membership -/

variable {rule other : Language Char}

theorem append_mem_kstar {front back : List Char} (first : front ∈ rule) (others : back ∈ rule∗) :
    front ++ back ∈ rule∗ := by
  obtain ⟨words, rfl, isWord⟩ := Language.mem_kstar.mp others
  refine Language.mem_kstar.mpr ⟨front :: words, by simp, ?_⟩
  intro word member
  rcases List.mem_cons.mp member with rfl | behind
  · exact first
  · exact isWord word behind

theorem nil_mem_optional : [] ∈ optional rule :=
  Or.inl rfl

theorem mem_optional_of_mem {word : List Char} (is : word ∈ rule) : word ∈ optional rule :=
  Or.inr is

theorem mem_optional_iff {word : List Char} : word ∈ optional rule ↔ word = [] ∨ word ∈ rule := by
  rw [optional, Language.mem_add, Language.mem_one]

theorem singleton_mem_one {admits : Char → Bool} {c : Char} (admitted : admits c = true) :
    [c] ∈ one admits :=
  ⟨c, admitted, rfl⟩

theorem mem_sign (c : Char) : [c] ∈ sign c :=
  rfl

theorem cons_mem_sign_mul {c : Char} {word : List Char} (is : word ∈ rule) :
    c :: word ∈ sign c * rule :=
  Language.append_mem_mul (mem_sign c) is

theorem cons_mem_sign_mul_iff {c d : Char} {word : List Char} :
    c :: word ∈ sign d * rule ↔ c = d ∧ word ∈ rule := by
  constructor
  · rintro ⟨_, ⟨⟩, back, isBack, whole⟩
    cases whole
    exact ⟨rfl, isBack⟩
  · rintro ⟨rfl, is⟩
    exact cons_mem_sign_mul is

theorem mem_escape {high low : Char} (isHigh : isHexDigit high = true)
    (isLow : isHexDigit low = true) : ['%', high, low] ∈ escape :=
  Language.append_mem_mul (Language.append_mem_mul (mem_sign '%') (singleton_mem_one isHigh))
    (singleton_mem_one isLow)

/-! ## Repetitions -/

variable {words : List (List Char)}

theorem flatten_mem_pow (all : ∀ word ∈ words, word ∈ rule) :
    words.flatten ∈ rule ^ words.length := by
  induction words with
  | nil => exact rfl
  | cons word words ih =>
      rw [List.flatten_cons, List.length_cons, pow_succ']
      exact Language.append_mem_mul (all word List.mem_cons_self)
        (ih fun other member => all other (List.mem_cons_of_mem word member))

theorem nil_mem_atMost (count : Nat) : [] ∈ atMost count rule := by
  induction count with
  | zero => exact rfl
  | succ count ih =>
      rw [atMost, pow_succ']
      exact Language.append_mem_mul nil_mem_optional ih

theorem flatten_mem_atMost {count : Nat} (all : ∀ word ∈ words, word ∈ rule)
    (few : words.length ≤ count) : words.flatten ∈ atMost count rule := by
  induction count generalizing words with
  | zero =>
      rw [List.eq_nil_of_length_eq_zero (Nat.le_zero.mp few)]
      exact rfl
  | succ count ih =>
      cases words with
      | nil => exact nil_mem_atMost _
      | cons word words =>
          rw [List.flatten_cons, atMost, pow_succ']
          exact Language.append_mem_mul (mem_optional_of_mem (all word List.mem_cons_self))
            (ih (fun other member => all other (List.mem_cons_of_mem word member))
              (Nat.le_of_succ_le_succ few))

theorem mem_atMost_one {admits : Char → Bool} {word : List Char} {count : Nat}
    (all : ∀ c ∈ word, admits c = true) (few : word.length ≤ count) :
    word ∈ atMost count (one admits) := by
  have letters : (word.map fun c => [c]).flatten = word := by
    induction word with
    | nil => rfl
    | cons c word ih =>
        simp [ih (fun d member => all d (List.mem_cons_of_mem c member)) (Nat.le_of_succ_le few)]
  rw [← letters]
  apply flatten_mem_atMost
  · intro single member
    obtain ⟨c, isChar, rfl⟩ := List.mem_map.mp member
    exact singleton_mem_one (all c isChar)
  · rwa [List.length_map]

/-! ## What the words of a rule keep -/

/-- A property of words that is kept by putting words together. -/
structure Closed (keeps : List Char → Prop) : Prop where
  nil : keeps []
  append : ∀ {front back}, keeps front → keeps back → keeps (front ++ back)

/-- A property of all words of a rule. -/
def Within (rule : Language Char) (keeps : List Char → Prop) : Prop :=
  ∀ word ∈ rule, keeps word

variable {keeps : List Char → Prop}

theorem Within.add (left : Within rule keeps) (right : Within other keeps) :
    Within (rule + other) keeps := by
  rintro word (isLeft | isRight)
  · exact left word isLeft
  · exact right word isRight

namespace Closed

variable (closed : Closed keeps)

include closed

theorem within_one : Within (1 : Language Char) keeps := by
  rintro word is
  rw [Language.mem_one] at is
  exact is ▸ closed.nil

theorem within_mul (left : Within rule keeps) (right : Within other keeps) :
    Within (rule * other) keeps := by
  rintro word ⟨front, isFront, back, isBack, rfl⟩
  exact closed.append (left front isFront) (right back isBack)

theorem within_pow (all : Within rule keeps) (count : Nat) : Within (rule ^ count) keeps := by
  induction count with
  | zero => exact closed.within_one
  | succ count ih =>
      rw [pow_succ]
      exact closed.within_mul ih all

theorem within_kstar (all : Within rule keeps) : Within (rule∗) keeps := by
  intro word repeats
  obtain ⟨words, rfl, isWord⟩ := Language.mem_kstar.mp repeats
  clear repeats
  induction words with
  | nil => exact closed.nil
  | cons word words ih =>
      rw [List.flatten_cons]
      have inTail : ∀ other ∈ words, other ∈ rule :=
        fun other isOther => isWord other (List.mem_cons_of_mem _ isOther)
      exact closed.append (all word (isWord word List.mem_cons_self))
        (ih inTail)

theorem within_optional (all : Within rule keeps) : Within (optional rule) keeps :=
  closed.within_one.add all

theorem within_atMost (all : Within rule keeps) (count : Nat) :
    Within (atMost count rule) keeps :=
  closed.within_pow (closed.within_optional all) count

end Closed

theorem closed_forall (admits : Char → Prop) : Closed fun word => ∀ c ∈ word, admits c :=
  ⟨nofun, fun first second c member => (List.mem_append.mp member).elim (first c) (second c)⟩

theorem within_sign {c : Char} (keep : keeps [c]) : Within (sign c) keeps := by
  rintro word ⟨⟩
  exact keep

theorem within_one {admits : Char → Bool} (keep : ∀ c, admits c = true → keeps [c]) :
    Within (one admits) keeps := by
  rintro word ⟨c, admitted, rfl⟩
  exact keep c admitted

/-- A repeated class holds the words of its characters. -/
theorem mem_kstar_one_iff {admits : Char → Bool} {word : List Char} :
    word ∈ (one admits)∗ ↔ ∀ c ∈ word, admits c = true := by
  constructor
  · apply (closed_forall fun c => admits c = true).within_kstar
    apply within_one
    intro c admitted d member
    exact List.mem_singleton.mp member ▸ admitted
  · intro admitted
    induction word with
    | nil => exact Language.nil_mem_kstar _
    | cons c word ih =>
        exact append_mem_kstar (singleton_mem_one (admitted c List.mem_cons_self))
          (ih fun d member => admitted d (List.mem_cons_of_mem c member))

/-! ## Escapes -/

/-- Each percent sign is followed by two hexadecimal digits. -/
def Escaped (word : List Char) : Prop :=
  ∀ rest, '%' :: rest <:+ word →
    ∃ high low others, rest = high :: low :: others ∧ isHexDigit high = true ∧ isHexDigit low = true

theorem not_isHexDigit_percent : isHexDigit '%' = false := by
  decide

theorem escaped_nil : Escaped [] := by
  intro rest begins
  cases List.suffix_nil.mp begins

theorem escaped_cons_iff {c : Char} {word : List Char} (noPercent : c ≠ '%') :
    Escaped (c :: word) ↔ Escaped word := by
  constructor
  · intro escaped rest begins
    exact escaped rest (begins.trans (List.suffix_cons c word))
  · intro escaped rest begins
    rcases List.suffix_cons_iff.mp begins with whole | within
    · cases whole
      exact absurd rfl noPercent
    · exact escaped rest within

theorem escaped_percent_iff {word : List Char} :
    Escaped ('%' :: word) ↔ ∃ high low others, word = high :: low :: others ∧
      isHexDigit high = true ∧ isHexDigit low = true ∧ Escaped others := by
  have other : ∀ {c : Char}, isHexDigit c = true → c ≠ '%' := by
    rintro c digit rfl
    simp [not_isHexDigit_percent] at digit
  constructor
  · intro escaped
    obtain ⟨high, low, others, rfl, isHigh, isLow⟩ := escaped word (List.suffix_refl _)
    refine ⟨high, low, others, rfl, isHigh, isLow, ?_⟩
    intro rest begins
    refine escaped rest (begins.trans ⟨['%', high, low], rfl⟩)
  · rintro ⟨high, low, others, rfl, isHigh, isLow, escaped⟩ rest begins
    rcases List.suffix_cons_iff.mp begins with whole | within
    · cases whole
      exact ⟨high, low, others, rfl, isHigh, isLow⟩
    · have behind := (escaped_cons_iff (other isLow)).mpr escaped
      exact (escaped_cons_iff (other isHigh)).mpr behind rest within

/-- Reads a word escape by escape. -/
def checkEscapes : List Char → Bool
  | [] => true
  | '%' :: high :: low :: rest => isHexDigit high && isHexDigit low && checkEscapes rest
  | c :: rest => c != '%' && checkEscapes rest

theorem checkEscapes_iff {word : List Char} : checkEscapes word = true ↔ Escaped word := by
  fun_induction checkEscapes word with
  | case1 => simp [escaped_nil]
  | case2 high low rest ih =>
      rw [escaped_percent_iff, Bool.and_eq_true, Bool.and_eq_true, ih]
      constructor
      · rintro ⟨⟨isHigh, isLow⟩, escaped⟩
        exact ⟨high, low, rest, rfl, isHigh, isLow, escaped⟩
      · rintro ⟨_, _, _, ⟨⟩, isHigh, isLow, escaped⟩
        exact ⟨⟨isHigh, isLow⟩, escaped⟩
  | case3 c rest short ih =>
      by_cases percent : c = '%'
      · subst percent
        have unfinished : ¬Escaped ('%' :: rest) := by
          intro escaped
          obtain ⟨high, low, others, rfl, -⟩ := escaped_percent_iff.mp escaped
          exact short high low others rfl rfl
        simp [unfinished]
      · simp [percent, ih, escaped_cons_iff percent]

instance (word : List Char) : Decidable (Escaped word) :=
  decidable_of_iff (checkEscapes word = true) checkEscapes_iff

/-- Escapes stay whole when words are put together. -/
theorem closed_escaped : Closed Escaped := by
  refine ⟨escaped_nil, fun {front back} first second => ?_⟩
  rintro rest ⟨before, is⟩
  rcases List.append_eq_append_iff.mp is with ⟨middle, rfl, rest'⟩ | ⟨middle, rfl, back'⟩
  · cases middle with
    | nil => exact second rest ⟨[], rest'⟩
    | cons d middle =>
        cases rest'
        obtain ⟨high, low, others, rfl, isHigh, isLow⟩ := first middle (List.suffix_append _ _)
        exact ⟨high, low, others ++ back, rfl, isHigh, isLow⟩
  · exact second rest ⟨middle, back'.symm⟩

/-- A word is divided at a character that is no digit without cutting an escape. -/
theorem escaped_append_cons_iff {front back : List Char} {c : Char}
    (noDigit : isHexDigit c = false) :
    Escaped (front ++ c :: back) ↔ Escaped front ∧ Escaped (c :: back) := by
  constructor
  · intro escaped
    refine ⟨fun rest begins => ?_, fun rest begins => ?_⟩
    · obtain ⟨before, rfl⟩ := begins
      obtain ⟨high, low, others, is, isHigh, isLow⟩ :=
        escaped (rest ++ c :: back) ⟨before, by simp⟩
      match rest, is with
      | [], is =>
          cases is
          simp [noDigit] at isHigh
      | [_], is =>
          cases is
          simp [noDigit] at isLow
      | _ :: _ :: others, is =>
          cases is
          exact ⟨high, low, others, rfl, isHigh, isLow⟩
    · exact escaped rest (begins.trans (List.suffix_append front (c :: back)))
  · rintro ⟨first, second⟩
    exact closed_escaped.append first second

/-! ## Texts -/

variable {admits : Char → Bool}

/-- A word of a text: its escapes are whole, and all else is admitted. -/
structure Holds (admits : Char → Bool) (word : List Char) : Prop where
  escaped : Escaped word
  admitted : ∀ c ∈ word, c = '%' ∨ admits c = true

theorem closed_holds (admits : Char → Bool) : Closed (Holds admits) :=
  ⟨⟨closed_escaped.nil, nofun⟩, fun first second =>
    ⟨closed_escaped.append first.escaped second.escaped,
      (closed_forall _).append first.admitted second.admitted⟩⟩

theorem holds_singleton {c : Char} (admitted : admits c = true) (noPercent : c ≠ '%') :
    Holds admits [c] := by
  refine ⟨(escaped_cons_iff noPercent).mpr escaped_nil, ?_⟩
  intro d member
  cases List.mem_singleton.mp member
  exact Or.inr admitted

theorem Holds.tail {c : Char} {word : List Char} (holds : Holds admits (c :: word))
    (noPercent : c ≠ '%') : Holds admits word :=
  ⟨(escaped_cons_iff noPercent).mp holds.escaped,
    fun d member => holds.admitted d (List.mem_cons_of_mem c member)⟩

theorem holds_of_mem_escape (digits : ∀ c, isHexDigit c = true → admits c = true) {word : List Char}
    (is : word ∈ escape) : Holds admits word := by
  obtain ⟨_, ⟨_, ⟨⟩, _, ⟨high, isHigh, rfl⟩, rfl⟩, _, ⟨low, isLow, rfl⟩, rfl⟩ := is
  refine ⟨escaped_percent_iff.mpr ⟨high, low, [], rfl, isHigh, isLow, escaped_nil⟩, ?_⟩
  intro c member
  simp only [List.cons_append, List.nil_append, List.mem_cons, List.not_mem_nil, or_false] at member
  rcases member with rfl | rfl | rfl
  · exact Or.inl rfl
  · exact Or.inr (digits c isHigh)
  · exact Or.inr (digits c isLow)

theorem mem_text_of_holds (noPercent : admits '%' = false) :
    ∀ {word : List Char}, Holds admits word → word ∈ text admits
  | [], _ => Language.nil_mem_kstar _
  | c :: word, holds => by
      by_cases percent : c = '%'
      · subst percent
        obtain ⟨high, low, others, rfl, isHigh, isLow, escaped⟩ :=
          escaped_percent_iff.mp holds.escaped
        have behind : Holds admits others := by
          refine ⟨escaped, fun d member => holds.admitted d ?_⟩
          simp [member]
        exact append_mem_kstar (Or.inr (mem_escape isHigh isLow))
          (mem_text_of_holds noPercent behind)
      · have admitted := (holds.admitted c List.mem_cons_self).resolve_left percent
        exact append_mem_kstar (Or.inl (singleton_mem_one admitted))
          (mem_text_of_holds noPercent (holds.tail percent))
  termination_by word => word.length

/-- A text is known by its escapes and characters. -/
theorem mem_text_iff (digits : ∀ c, isHexDigit c = true → admits c = true)
    (noPercent : admits '%' = false) {word : List Char} :
    word ∈ text admits ↔ Holds admits word := by
  refine ⟨?_, mem_text_of_holds noPercent⟩
  apply (closed_holds admits).within_kstar
  apply Within.add
  · apply within_one
    intro c admitted
    apply holds_singleton admitted
    rintro rfl
    simp [noPercent] at admitted
  · exact fun word => holds_of_mem_escape digits

theorem Escaped.split {front back : List Char} (escaped : Escaped (front ++ back))
    (bound : ∀ c ∈ back.head?, isHexDigit c = false) : Escaped front ∧ Escaped back := by
  cases back with
  | nil => exact ⟨by simpa using escaped, escaped_nil⟩
  | cons c back => exact (escaped_append_cons_iff (bound c rfl)).mp escaped

theorem Holds.split {front back : List Char} (holds : Holds admits (front ++ back))
    (bound : ∀ c ∈ back.head?, isHexDigit c = false) : Holds admits front ∧ Holds admits back := by
  obtain ⟨first, second⟩ := holds.escaped.split bound
  exact ⟨⟨first, fun c member => holds.admitted c (List.mem_append_left _ member)⟩,
    ⟨second, fun c member => holds.admitted c (List.mem_append_right _ member)⟩⟩

theorem Holds.imp {other : Char → Bool} {word : List Char} (holds : Holds admits word)
    (widens : ∀ c ∈ word, admits c = true → other c = true) : Holds other word :=
  ⟨holds.escaped, fun c member => (holds.admitted c member).imp_right (widens c member)⟩

/-! ## The classes of the parts -/

theorem isAlphanum_of_isHexDigit {c : Char} (digit : isHexDigit c = true) :
    c.isAlphanum = true := by
  simp only [isHexDigit, Bool.or_eq_true, Bool.and_eq_true, decide_eq_true_eq] at digit
  apply Bool.or_eq_true_iff.mpr
  rcases digit with (digit | ⟨low, high⟩) | ⟨low, high⟩
  · exact Or.inr digit
  · have isLower : c.isLower = true := Bool.and_eq_true_iff.mpr
      ⟨decide_eq_true low, decide_eq_true (Char.le_trans high (show 'f' ≤ 'z' by decide))⟩
    exact Or.inl (Bool.or_eq_true_iff.mpr (Or.inr isLower))
  · have isUpper : c.isUpper = true :=
      decide_eq_true ⟨low, Char.le_trans high (show 'F' ≤ 'Z' by decide)⟩
    exact Or.inl (Bool.or_eq_true_iff.mpr (Or.inl isUpper))

theorem isNameChar_of_isHexDigit {c : Char} (digit : isHexDigit c = true) :
    isNameChar c = true := by
  simp [isNameChar, isUnreserved, isAlphanum_of_isHexDigit digit]

theorem mem_registeredName_iff {word : List Char} :
    word ∈ registeredName ↔ Holds isNameChar word :=
  mem_text_iff (fun _ => isNameChar_of_isHexDigit) (by decide)

theorem mem_userinfo_iff {word : List Char} : word ∈ userinfo ↔ Holds isUserChar word :=
  mem_text_iff (fun c digit => by simp [isUserChar, isNameChar_of_isHexDigit digit]) (by decide)

theorem isPathChar_of_isHexDigit {c : Char} (digit : isHexDigit c = true) :
    isPathChar c = true := by
  simp [isPathChar, isNameChar_of_isHexDigit digit]

theorem mem_segment_iff {word : List Char} : word ∈ segment ↔ Holds isPathChar word :=
  mem_text_iff (fun _ => isPathChar_of_isHexDigit) (by decide)

theorem mem_fragment_iff {word : List Char} : word ∈ fragment ↔ Holds isFragmentChar word :=
  mem_text_iff (fun c digit => by simp [isFragmentChar, isPathChar_of_isHexDigit digit])
    (by decide)

theorem mem_query_iff {word : List Char} : word ∈ query ↔ Holds isQueryChar word :=
  mem_text_iff
    (fun c digit => by simp [isQueryChar, isFragmentChar, isPathChar_of_isHexDigit digit])
    (by decide)

/-! ## Paths -/

/-- Characters of a path, without escapes. -/
def isPathTextChar (c : Char) : Bool :=
  isPathChar c || c == '/'

theorem holds_of_mem_segment {word : List Char} (is : word ∈ segment) :
    Holds isPathTextChar word :=
  (mem_segment_iff.mp is).imp fun c _ admitted => by simp [isPathTextChar, admitted]

theorem holds_of_mem_nonemptySegment {word : List Char} (is : word ∈ nonemptySegment) :
    Holds isPathTextChar word ∧ word ≠ [] ∧ word.head? ≠ some '/' := by
  obtain ⟨first, isFirst, others, isOthers, rfl⟩ := is
  have whole : first ++ others ∈ segment := append_mem_kstar isFirst isOthers
  refine ⟨holds_of_mem_segment whole, ?_⟩
  rcases isFirst with
    ⟨c, admitted, rfl⟩ | ⟨_, ⟨_, ⟨⟩, _, ⟨high, -, rfl⟩, rfl⟩, _, ⟨low, -, rfl⟩, rfl⟩
  · refine ⟨by simp, ?_⟩
    rintro ⟨⟩
    revert admitted
    decide
  · exact ⟨by simp, by simp⟩

theorem holds_of_mem_pathAbempty {word : List Char} (is : word ∈ pathAbempty) :
    Holds isPathTextChar word ∧ ∀ c ∈ word.head?, c = '/' := by
  have closed : Closed fun word => Holds isPathTextChar word ∧ ∀ c ∈ word.head?, c = '/' := by
    refine ⟨⟨(closed_holds _).nil, nofun⟩, fun {front back} first second => ?_⟩
    refine ⟨(closed_holds _).append first.1 second.1, fun c begins => ?_⟩
    cases front with
    | nil => exact second.2 c begins
    | cons d front => exact first.2 c begins
  refine closed.within_kstar ?_ word is
  rintro _ ⟨_, ⟨⟩, others, isSegment, rfl⟩
  refine ⟨(closed_holds _).append ?_ (holds_of_mem_segment isSegment), ?_⟩
  · exact holds_singleton (by decide) (by decide)
  · rintro c ⟨⟩
    rfl

/-- The first segment of a path and the rest, which begins with a slash. -/
theorem exists_segment {word : List Char} (holds : Holds isPathTextChar word) :
    ∃ first rest, word = first ++ rest ∧ first ∈ segment ∧ Holds isPathTextChar rest ∧
      ∀ c ∈ rest.head?, c = '/' := by
  have bound : ∀ c ∈ (word.dropWhile fun c => c != '/').head?, c = '/' := by
    intro c begins
    have stops := List.head?_dropWhile_not (fun c => c != '/') word
    rw [Option.mem_def] at begins
    simpa [begins] using stops
  have whole : word.takeWhile (fun c => c != '/') ++ word.dropWhile (fun c => c != '/') = word :=
    List.takeWhile_append_dropWhile
  rw [← whole] at holds
  obtain ⟨first, second⟩ := holds.split fun c begins => by
    rw [bound c begins]
    decide
  refine ⟨_, _, whole.symm, mem_segment_iff.mpr (first.imp fun c member admitted => ?_), second,
    bound⟩
  have noSlash : c ≠ '/' := by
    simpa using List.all_eq_true.mp (List.all_takeWhile (p := fun c => c != '/')) c member
  simpa [isPathTextChar, noSlash] using admitted

theorem mem_pathAbempty_of_holds : ∀ {word : List Char}, Holds isPathTextChar word →
    (∀ c ∈ word.head?, c = '/') → word ∈ pathAbempty
  | [], _, _ => Language.nil_mem_kstar _
  | c :: word, holds, begins => by
      obtain rfl := begins c rfl
      have behind := holds.tail (by decide)
      obtain ⟨first, rest, rfl, isSegment, others, bound⟩ := exists_segment behind
      exact append_mem_kstar (cons_mem_sign_mul isSegment) (mem_pathAbempty_of_holds others bound)
  termination_by word => word.length

/-- A path behind an authority is empty or begins with a slash. -/
theorem mem_pathAbempty_iff {word : List Char} :
    word ∈ pathAbempty ↔ Holds isPathTextChar word ∧ ∀ c ∈ word.head?, c = '/' :=
  ⟨holds_of_mem_pathAbempty, fun holds => mem_pathAbempty_of_holds holds.1 holds.2⟩

theorem mem_nonemptySegment {word : List Char} (is : word ∈ segment) (nonempty : word ≠ []) :
    word ∈ nonemptySegment := by
  obtain ⟨words, rfl, isWord⟩ := Language.mem_kstar.mp is
  induction words with
  | nil => exact absurd rfl nonempty
  | cons first words ih =>
      have inTail : ∀ other ∈ words, other ∈ one isPathChar + escape :=
        fun other isOther => isWord other (List.mem_cons_of_mem _ isOther)
      exact Language.append_mem_mul (isWord first List.mem_cons_self)
        (Language.mem_kstar.mpr ⟨words, rfl, inTail⟩)

theorem mem_pathRootless_of_holds {word : List Char} (holds : Holds isPathTextChar word)
    (nonempty : word ≠ []) (noSlash : word.head? ≠ some '/') : word ∈ pathRootless := by
  obtain ⟨first, rest, rfl, isSegment, others, bound⟩ := exists_segment holds
  refine Language.append_mem_mul (mem_nonemptySegment isSegment ?_)
    (mem_pathAbempty_of_holds others bound)
  rintro rfl
  cases rest with
  | nil => exact nonempty rfl
  | cons c rest => exact noSlash (congrArg some (bound c rfl))

theorem holds_of_mem_pathRootless {word : List Char} (is : word ∈ pathRootless) :
    Holds isPathTextChar word ∧ word ≠ [] ∧ word.head? ≠ some '/' := by
  obtain ⟨first, isFirst, rest, isRest, rfl⟩ := is
  obtain ⟨holds, nonempty, noSlash⟩ := holds_of_mem_nonemptySegment isFirst
  refine ⟨(closed_holds _).append holds (holds_of_mem_pathAbempty isRest).1, by simp [nonempty], ?_⟩
  cases first with
  | nil => exact absurd rfl nonempty
  | cons c first => exact noSlash

/-- A path without an authority does not begin with two slashes. -/
theorem mem_path_iff {word : List Char} :
    word ∈ pathAbsolute + pathRootless + 1 ↔
      Holds isPathTextChar word ∧ ¬['/', '/'] <+: word := by
  have slash : Holds isPathTextChar ['/'] := holds_singleton (by decide) (by decide)
  constructor
  · rintro ((⟨_, ⟨⟩, rest, isRest, rfl⟩ | isRootless) | rfl)
    · rcases isRest with rfl | isRootless
      · exact ⟨slash, by decide⟩
      · obtain ⟨holds, -, noSlash⟩ := holds_of_mem_pathRootless isRootless
        refine ⟨(closed_holds _).append slash holds, ?_⟩
        rintro ⟨others, is⟩
        cases is
        exact noSlash rfl
    · obtain ⟨holds, -, noSlash⟩ := holds_of_mem_pathRootless isRootless
      refine ⟨holds, ?_⟩
      rintro ⟨others, rfl⟩
      exact noSlash rfl
    · exact ⟨(closed_holds _).nil, by decide⟩
  · rintro ⟨holds, noSlashes⟩
    match word with
    | [] => exact Or.inr rfl
    | c :: rest =>
        by_cases isSlash : c = '/'
        · subst isSlash
          refine Or.inl (Or.inl (cons_mem_sign_mul ?_))
          cases rest with
          | nil => exact nil_mem_optional
          | cons d rest =>
              have behind := holds.tail (by decide)
              refine mem_optional_of_mem (mem_pathRootless_of_holds behind nofun ?_)
              rintro ⟨⟩
              exact noSlashes ⟨rest, rfl⟩
        · exact Or.inl (Or.inr (mem_pathRootless_of_holds holds nofun (by simpa using isSlash)))

/-! ## Hosts -/

/-- Characters of a host, those of literals included. -/
def isHostChar (c : Char) : Bool :=
  isNameChar c || c == ':' || c == '[' || c == ']'

/-- What all hosts are: characters of a host and escapes. -/
def InHost : List Char → Prop :=
  Holds isHostChar

theorem closed_inHost : Closed InHost :=
  closed_holds _

theorem within_sign_inHost {c : Char} (admitted : isHostChar c = true) (noPercent : c ≠ '%') :
    Within (sign c) InHost :=
  within_sign (holds_singleton admitted noPercent)

theorem within_one_inHost {admits : Char → Bool}
    (widens : ∀ c, admits c = true → isHostChar c = true) : Within (one admits) InHost := by
  apply within_one
  intro c admitted
  apply holds_singleton (widens c admitted)
  rintro rfl
  exact absurd (widens _ admitted) (by decide)

theorem isHostChar_of_isNameChar {c : Char} (admitted : isNameChar c = true) :
    isHostChar c = true := by
  simp [isHostChar, admitted]

theorem isHostChar_of_isDigit {c : Char} (digit : c.isDigit = true) : isHostChar c = true :=
  isHostChar_of_isNameChar (by simp [isNameChar, isUnreserved, Char.isAlphanum, digit])

theorem within_digit : Within (one Char.isDigit) InHost :=
  within_one_inHost fun _ => isHostChar_of_isDigit

theorem within_digitUpTo {low high : Char} (isLow : '0' ≤ low) (isHigh : high ≤ '9') :
    Within (one fun c => low ≤ c && c ≤ high) InHost := by
  apply within_one_inHost
  intro c between
  rw [Bool.and_eq_true, decide_eq_true_eq, decide_eq_true_eq] at between
  apply isHostChar_of_isDigit
  rw [Char.isDigit, Bool.and_eq_true, decide_eq_true_eq, decide_eq_true_eq]
  exact ⟨Char.le_trans isLow between.1, Char.le_trans between.2 isHigh⟩

theorem within_hexDigit : Within (one isHexDigit) InHost :=
  within_one_inHost fun _ digit => isHostChar_of_isNameChar (isNameChar_of_isHexDigit digit)

theorem within_octet : Within octet InHost := by
  have first : Within (sign '1') InHost := within_sign_inHost (by decide) (by decide)
  have second : Within (sign '2') InHost := within_sign_inHost (by decide) (by decide)
  have five : Within (sign '5') InHost := within_sign_inHost (by decide) (by decide)
  have closed := closed_inHost
  apply Within.add
  · apply Within.add
    · apply Within.add
      · apply Within.add within_digit
        exact closed.within_mul (within_digitUpTo (by decide) (by decide)) within_digit
      · exact closed.within_mul (closed.within_mul first within_digit) within_digit
    · exact closed.within_mul
        (closed.within_mul second (within_digitUpTo (by decide) (by decide))) within_digit
  · exact closed.within_mul (closed.within_mul second five)
      (within_digitUpTo (by decide) (by decide))

theorem within_ipv4Address : Within ipv4Address InHost := by
  have dot : Within (sign '.') InHost := within_sign_inHost (by decide) (by decide)
  have octetDot : Within (octet * sign '.') InHost := closed_inHost.within_mul within_octet dot
  unfold ipv4Address
  have two := closed_inHost.within_mul (closed_inHost.within_mul octetDot within_octet) dot
  have three := closed_inHost.within_mul (closed_inHost.within_mul two within_octet) dot
  exact closed_inHost.within_mul three within_octet

theorem within_colon : Within (sign ':') InHost :=
  within_sign_inHost (by decide) (by decide)

theorem within_group : Within group InHost :=
  closed_inHost.within_mul within_hexDigit (closed_inHost.within_atMost within_hexDigit 3)

theorem within_groupColon : Within groupColon InHost :=
  closed_inHost.within_mul within_group within_colon

theorem within_lastGroups : Within lastGroups InHost :=
  (closed_inHost.within_mul within_groupColon within_group).add within_ipv4Address

theorem within_frontGroups (count : Nat) : Within (frontGroups count * doubleColon) InHost :=
  closed_inHost.within_mul
    (closed_inHost.within_optional
      (closed_inHost.within_mul (closed_inHost.within_atMost within_groupColon count) within_group))
    (closed_inHost.within_mul within_colon within_colon)

theorem within_ipv6Address : Within ipv6Address InHost := by
  have groups := closed_inHost.within_pow within_groupColon
  have closed := closed_inHost
  have double : Within doubleColon InHost := closed.within_mul within_colon within_colon
  unfold ipv6Address
  refine Within.add (Within.add (Within.add (Within.add (Within.add (Within.add (Within.add
    (Within.add ?_ ?_) ?_) ?_) ?_) ?_) ?_) ?_) (within_frontGroups 6)
  · exact closed.within_mul (groups 6) within_lastGroups
  · exact closed.within_mul (closed.within_mul double (groups 5)) within_lastGroups
  · exact closed.within_mul (closed.within_mul (within_frontGroups 0) (groups 4)) within_lastGroups
  · exact closed.within_mul (closed.within_mul (within_frontGroups 1) (groups 3)) within_lastGroups
  · exact closed.within_mul (closed.within_mul (within_frontGroups 2) (groups 2)) within_lastGroups
  · exact closed.within_mul (closed.within_mul (within_frontGroups 3) within_groupColon)
      within_lastGroups
  · exact closed.within_mul (within_frontGroups 4) within_lastGroups
  · exact closed.within_mul (within_frontGroups 5) within_group

theorem within_futureAddress : Within futureAddress InHost := by
  have closed := closed_inHost
  have letter : Within (one fun c => c == 'v' || c == 'V') InHost := by
    apply within_one_inHost
    intro c is
    rcases Bool.or_eq_true_iff.mp is with is | is <;> rw [beq_iff_eq.mp is] <;> decide
  have rest : Within (one fun c => isUnreserved c || isSubDelimiter c || c == ':') InHost := by
    apply within_one_inHost
    intro c is
    simp only [Bool.or_eq_true] at is
    rcases is with (is | is) | is <;> simp [isHostChar, isNameChar, is]
  have digits := closed.within_mul (closed.within_mul letter within_hexDigit)
    (closed.within_kstar within_hexDigit)
  exact closed.within_mul (closed.within_mul
    (closed.within_mul digits (within_sign_inHost (by decide) (by decide))) rest)
    (closed.within_kstar rest)

theorem within_registeredName : Within registeredName InHost :=
  fun _ is => (mem_registeredName_iff.mp is).imp fun _ _ => isHostChar_of_isNameChar

theorem within_host : Within host InHost := by
  have opened : Within (sign '[') InHost := within_sign_inHost (by decide) (by decide)
  have closing : Within (sign ']') InHost := within_sign_inHost (by decide) (by decide)
  have address := within_ipv6Address.add within_futureAddress
  have literal := closed_inHost.within_mul (closed_inHost.within_mul opened address) closing
  exact (literal.add within_ipv4Address).add within_registeredName

end ContextStream.Iri.Grammar
