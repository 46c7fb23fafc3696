import ContextStream.Iri
import ContextStream.Proofs.Url.Authority
import Mathlib.Tactic.MkIffOfInductiveProp

/-!
# Which IRIs conform to the grammar

A text is accepted as an IRI when it can be read as a URL and holds no illegal character.
That fixes its scheme, its hosts and its ports. What the leniency of the reading leaves
open is gathered in `Tidy`; with it the text is an IRI by the letter of the grammar.
-/

namespace ContextStream.Iri

open ContextStream.Text ContextStream.Url Grammar
open scoped Computability

/-! ## What reading fixes -/

theorem exists_scheme_of_splitScheme {text rest : List Char} {name : String}
    (split : splitScheme text = some (name, rest)) :
    ∃ front ∈ Grammar.scheme, text = front ++ ':' :: rest ∧
      name = String.ofList (front.map Char.toLower) := by
  unfold splitScheme at split
  split at split
  · next first others =>
      split at split
      · next isLetter =>
          split at split
          · next front rest' cut =>
              obtain ⟨rfl, rfl⟩ := Prod.mk.inj (Option.some.inj split)
              have whole := cutAt_append (!Url.isSchemeChar ·) (first :: others)
              rw [cut] at whole
              have all : ∀ c ∈ front, Grammar.isSchemeChar c = true := by
                intro c member
                have inCut : c ∈ (cutAt (!Url.isSchemeChar ·) (first :: others)).1 := by
                  rwa [cut]
                have isChar : Url.isSchemeChar c = true := by
                  simpa using eq_false_of_mem_cutAt inCut
                exact isChar
              refine ⟨front, ?_, whole.symm, rfl⟩
              cases front with
              | nil =>
                  cases whole
                  exact absurd isLetter (by decide)
              | cons c front =>
                  cases whole
                  exact Language.append_mem_mul (singleton_mem_one isLetter)
                    (mem_kstar_one_iff.mpr fun d member => all d (List.mem_cons_of_mem _ member))
          · cases split
      · cases split
  · cases split

theorem exists_scheme_of_parse {text : List Char} {url : Url} (read : Url.parse text = .ok url) :
    ∃ front ∈ Grammar.scheme, ∃ rest, text = front ++ ':' :: rest ∧
      parseAfterScheme (String.ofList (front.map Char.toLower)) rest = .ok url := by
  unfold Url.parse at read
  split at read
  · next name rest split =>
      obtain ⟨front, isScheme, whole, rfl⟩ := exists_scheme_of_splitScheme split
      exact ⟨front, isScheme, rest, whole, read⟩
  · cases read

/-- A text that can be read as a URL begins with a scheme. -/
theorem scheme_of_parse {text : List Char} {url : Url} (read : Url.parse text = .ok url) :
    ':' ∈ text ∧ (Division.ofText text).scheme ∈ Grammar.scheme := by
  obtain ⟨front, isScheme, rest, rfl, -⟩ := exists_scheme_of_parse read
  rw [Division.ofText_eq (not_mem_scheme isScheme)]
  exact ⟨by simp, isScheme⟩

/-- Legal characters. -/
def isLegal (c : Char) : Bool :=
  !isIllegal c

/-- The authority of a text that can be read as a URL has a host and a port. -/
theorem served_of_parse {text : List Char} {url : Url} (read : Url.parse text = .ok url)
    (legal : ∀ c ∈ text, isLegal c = true) :
    ∀ part ∈ (Division.ofText text).authority, Served part := by
  obtain ⟨front, isScheme, rest, rfl, readRest⟩ := exists_scheme_of_parse read
  intro part is
  rw [Division.ofText_eq (not_mem_scheme isScheme)] at is
  obtain ⟨behind, announced, rfl⟩ := Division.mem_of_mem_authority is
  refine served_of_parseAfterScheme announced (fun c member => ?_) readRest
  have isLegal := legal c (by simp [member])
  refine ⟨?_, ?_⟩
  · rintro rfl
    exact absurd isLegal (by decide)
  · rintro rfl
    exact absurd isLegal (by decide)

/-! ## What reading leaves open -/

/-- Neither of the brackets is in the text. -/
def Unbracketed (text : List Char) : Prop :=
  '[' ∉ text ∧ ']' ∉ text
  deriving Decidable

/-- The character is in ASCII or may stand in all parts of an IRI. -/
def isCommon (c : Char) : Bool :=
  c.toNat < 128 || isUniversal c

/-- What the grammar asks of a text that can be read as a URL. -/
@[mk_iff]
structure Tidy (text : List Char) : Prop where
  escaped : Escaped text
  authority : ∀ part ∈ (Division.ofText text).authority, part.all isCommon = true
  userinfo : ∀ part ∈ (Division.ofText text).authority, ∀ info ∈ (splitUser part).1,
    '@' ∉ info ∧ Unbracketed info
  path : (Division.ofText text).path.all isCommon = true ∧ Unbracketed (Division.ofText text).path
  query : ∀ part ∈ (Division.ofText text).query,
    part.all (fun c => isCommon c || isPrivate c) = true ∧ Unbracketed part
  fragment : ∀ part ∈ (Division.ofText text).fragment,
    part.all isCommon = true ∧ '#' ∉ part ∧ Unbracketed part

instance (text : List Char) : Decidable (Tidy text) :=
  decidable_of_iff _ (tidy_iff text).symm

/-! ## From the grammar -/

theorem toNat_lt_of_isAlphanum {c : Char} (isPlain : c.isAlphanum = true) : c.toNat < 128 := by
  have below : ∀ {last : Char}, last.toNat < 128 → c.val ≤ last.val → c.toNat < 128 :=
    fun ascii within => Nat.lt_of_le_of_lt (UInt32.le_iff_toNat_le.mp within) ascii
  rcases Bool.or_eq_true_iff.mp isPlain with isLetter | isDigit
  · rcases Bool.or_eq_true_iff.mp isLetter with isUpper | isLower
    · exact below (show 'Z'.toNat < 128 by decide) (of_decide_eq_true isUpper).2
    · exact below (show 'z'.toNat < 128 by decide)
        (of_decide_eq_true (Bool.and_eq_true_iff.mp isLower).2)
  · exact below (show '9'.toNat < 128 by decide)
      (of_decide_eq_true (Bool.and_eq_true_iff.mp isDigit).2)

theorem isCommon_of_isNameChar {c : Char} (admitted : isNameChar c = true) : isCommon c = true := by
  simp only [isNameChar, isUnreserved, isSubDelimiter, Bool.or_eq_true, beq_iff_eq,
    decide_eq_true_eq] at admitted
  rcases admitted with (((((isPlain | rfl) | rfl) | rfl) | rfl) | universal) | delimiter
  · simp [isCommon, toNat_lt_of_isAlphanum isPlain]
  · decide
  · decide
  · decide
  · decide
  · simp [isCommon, universal]
  · have all : ∀ c ∈ ['!', '$', '&', '\'', '(', ')', '*', '+', ',', ';', '='],
        isCommon c = true :=
      forall_mem_of_all (by decide)
    exact all c delimiter

theorem isCommon_of_isFragmentChar {c : Char} (admitted : isFragmentChar c = true) :
    isCommon c = true := by
  simp only [isFragmentChar, isPathChar, Bool.or_eq_true, beq_iff_eq] at admitted
  rcases admitted with (((isName | rfl) | rfl) | rfl) | rfl
  · exact isCommon_of_isNameChar isName
  all_goals decide

theorem isCommon_of_isPathTextChar {c : Char} (admitted : isPathTextChar c = true) :
    isCommon c = true := by
  rcases Bool.or_eq_true_iff.mp admitted with inSegment | slash
  · exact isCommon_of_isFragmentChar (by simp [isFragmentChar, inSegment])
  · rw [beq_iff_eq.mp slash]
    decide

theorem isCommon_of_isAuthorityChar {c : Char} (admitted : isAuthorityChar c = true) :
    isCommon c = true := by
  simp only [isAuthorityChar, isHostChar, Bool.or_eq_true, beq_iff_eq] at admitted
  rcases admitted with (((isName | rfl) | rfl) | rfl) | rfl
  · exact isCommon_of_isNameChar isName
  all_goals decide

/-- The characters of a text are common ones if those that it admits are. -/
theorem isCommon_of_holds {admits : Char → Bool} {part : List Char} (holds : Holds admits part)
    (all : ∀ c, admits c = true → isCommon c = true) : part.all isCommon = true := by
  refine List.all_eq_true.mpr fun c member => ?_
  rcases holds.admitted c member with rfl | admitted
  · decide
  · exact all c admitted

theorem unbracketed_of_holds {admits : Char → Bool} {part : List Char} (holds : Holds admits part)
    (noBrackets : admits '[' = false ∧ admits ']' = false) : Unbracketed part :=
  ⟨not_mem_of_holds holds (by decide) noBrackets.1, not_mem_of_holds holds (by decide) noBrackets.2⟩

theorem userinfo_of_mem_authority {part : List Char} (is : part ∈ Grammar.authority) :
    ∀ info ∈ (splitUser part).1, '@' ∉ info ∧ Unbracketed info := by
  obtain ⟨user, body, tail, rfl, isHost, isUser, isTail⟩ := mem_authority_iff.mp is
  have noAt : '@' ∉ body ++ tail := by
    have inBody : '@' ∉ body := not_mem_of_holds (within_host body isHost) (by decide) (by decide)
    rcases isTail with rfl | ⟨digits, rfl, all⟩
    · simpa using inBody
    · have inDigits : '@' ∉ digits := fun member => absurd (all '@' member) (by decide)
      simp [inBody, inDigits]
  rw [List.append_assoc]
  rcases isUser with rfl | ⟨info, rfl, holds⟩
  · rw [List.nil_append, splitUser_eq noAt]
    nofun
  · rw [List.append_assoc, List.singleton_append, splitUser_append noAt]
    rintro _ ⟨⟩
    exact ⟨not_mem_of_holds holds (by decide) (by decide),
      unbracketed_of_holds holds (by decide)⟩

/-- What the grammar asks of the parts of a text makes it tidy. -/
theorem tidy_of_conforms {text : List Char} (divided : ':' ∈ text)
    (conforms : Conforms (Division.ofText text)) : Tidy text := by
  have widen : ∀ {admits : Char → Bool} {part : List Char}, Holds admits part →
      Holds (fun _ => true) part :=
    fun holds => holds.imp fun _ _ _ => rfl
  have all : (Division.ofText text).All (Holds fun _ => true) :=
    { scheme := widen (holds_of_mem_scheme conforms.scheme)
      authority := fun part is => widen (holds_of_mem_authority (conforms.authority part is))
      path := widen conforms.path
      query := fun part is => widen (conforms.query part is)
      fragment := fun part is => widen (conforms.fragment part is) }
  refine ⟨((holds_iff_all (fun _ _ => rfl) divided).mpr all).escaped, ?_, ?_, ?_, ?_, ?_⟩
  · exact fun part is => isCommon_of_holds (holds_of_mem_authority (conforms.authority part is))
      fun _ => isCommon_of_isAuthorityChar
  · exact fun part is => userinfo_of_mem_authority (conforms.authority part is)
  · exact ⟨isCommon_of_holds conforms.path fun _ => isCommon_of_isPathTextChar,
      unbracketed_of_holds conforms.path (by decide)⟩
  · intro part is
    have holds := conforms.query part is
    refine ⟨List.all_eq_true.mpr fun c member => ?_, unbracketed_of_holds holds (by decide)⟩
    rcases holds.admitted c member with rfl | admitted
    · decide
    · rw [isQueryChar, Bool.or_eq_true] at admitted
      rw [Bool.or_eq_true]
      exact admitted.imp_left isCommon_of_isFragmentChar
  · intro part is
    have holds := conforms.fragment part is
    exact ⟨isCommon_of_holds holds fun _ => isCommon_of_isFragmentChar,
      not_mem_of_holds holds (by decide) (by decide), unbracketed_of_holds holds (by decide)⟩

theorem tidy_of_mem_iri {text : List Char} (is : text ∈ Grammar.iri) : Tidy text := by
  have divided := mem_of_mem_iri is
  exact tidy_of_conforms divided ((mem_iri_iff divided).mp is)

/-! ## To the grammar -/

/-- The signs that divide an IRI or a part of it, `gen-delims`. -/
def generalDelimiters : List Char :=
  [':', '/', '?', '#', '[', ']', '@']

theorem isNameChar_of_isLegal {c : Char} (legal : isLegal c = true) (common : isCommon c = true)
    (noDivider : c ∉ generalDelimiters) (noPercent : c ≠ '%') : isNameChar c = true := by
  rcases Bool.or_eq_true_iff.mp common with ascii | universal
  · have named : isLegal c = true ∧ c ∉ generalDelimiters ∧ c ≠ '%' → isNameChar c = true :=
      forall_ascii (by decide) (of_decide_eq_true ascii)
    exact named ⟨legal, noDivider, noPercent⟩
  · simp [isNameChar, universal]

/-- A part of a legal text holds the characters of a class if it holds no sign beside. -/
theorem holds_of_legal {admits : Char → Bool} {part : List Char} (legal : Holds isLegal part)
    (common : ∀ c ∈ part, isCommon c = true ∨ admits c = true)
    (names : ∀ c, isNameChar c = true → admits c = true)
    (absent : ∀ c ∈ generalDelimiters, admits c = true ∨ c ∉ part) : Holds admits part := by
  refine ⟨legal.escaped, fun c member => ?_⟩
  by_cases percent : c = '%'
  · exact Or.inl percent
  · refine Or.inr ?_
    rcases common c member with isCommon | admitted
    · by_cases divides : c ∈ generalDelimiters
      · exact (absent c divides).resolve_right (not_not_intro member)
      · have isLegal := (legal.admitted c member).resolve_left percent
        exact names c (isNameChar_of_isLegal isLegal isCommon divides percent)
    · exact admitted

theorem mem_host_of_namesHost {host : List Char} (names : NamesHost host)
    (legal : Holds isLegal host) (common : ∀ c ∈ host, isCommon c = true)
    (apart : ∀ c ∈ ['/', '?', '#'], c ∉ host) : host ∈ Grammar.host := by
  rcases names with ⟨address, isAddress, rfl⟩ | noDividers
  · refine Or.inl (Or.inl (Language.append_mem_mul ?_ (mem_sign ']')))
    exact cons_mem_sign_mul (Or.inl isAddress)
  · refine Or.inr (mem_registeredName_iff.mpr ?_)
    refine holds_of_legal legal (fun c member => Or.inl (common c member)) (fun _ => id) ?_
    simp only [generalDelimiters, List.forall_mem_cons]
    exact ⟨Or.inr (noDividers ':' (by decide)), Or.inr (apart '/' (by decide)),
      Or.inr (apart '?' (by decide)), Or.inr (apart '#' (by decide)),
      Or.inr (noDividers '[' (by decide)), Or.inr (noDividers ']' (by decide)),
      Or.inr (noDividers '@' (by decide)), List.forall_mem_nil _⟩

theorem holds_of_userinfo {info : List Char} (legal : Holds isLegal info)
    (common : ∀ c ∈ info, isCommon c = true) (apart : ∀ c ∈ ['/', '?', '#'], c ∉ info)
    (plain : '@' ∉ info ∧ Unbracketed info) : Holds isUserChar info := by
  obtain ⟨noAt, noOpen, noClose⟩ := plain
  refine holds_of_legal legal (fun c member => Or.inl (common c member)) ?_ ?_
  · exact fun c isName => by simp [isUserChar, isName]
  · simp only [generalDelimiters, List.forall_mem_cons]
    exact ⟨Or.inl (by decide), Or.inr (apart '/' (by decide)), Or.inr (apart '?' (by decide)),
      Or.inr (apart '#' (by decide)), Or.inr noOpen, Or.inr noClose, Or.inr noAt,
      List.forall_mem_nil _⟩

theorem mem_authority_of_served {part : List Char} (served : Served part)
    (legal : Holds isLegal part) (common : ∀ c ∈ part, isCommon c = true)
    (apart : ∀ c ∈ ['/', '?', '#'], c ∉ part)
    (userinfo : ∀ info ∈ (splitUser part).1, '@' ∉ info ∧ Unbracketed info) :
    part ∈ Grammar.authority := by
  obtain ⟨host, tail, server, names, isTail⟩ := served
  have bound : ∀ c ∈ tail.head?, isHexDigit c = false := by
    intro c begins
    rcases isTail with rfl | ⟨digits, rfl, -⟩
    · cases begins
    · cases begins
      decide
  rcases splitUser_cases part with none | ⟨info, rest, rfl, some⟩
  · rw [none] at server
    obtain rfl : part = host ++ tail := server
    have isHost : host ∈ Grammar.host := by
      refine mem_host_of_namesHost names (legal.split bound).1 ?_ ?_
      · exact fun c member => common c (List.mem_append_left _ member)
      · exact fun c isSign member => apart c isSign (List.mem_append_left _ member)
    exact mem_authority_iff.mpr ⟨[], host, tail, rfl, isHost, Or.inl rfl, isTail⟩
  · rw [some] at server
    obtain rfl : rest = host ++ tail := server
    have atSign : ∀ c ∈ ('@' :: (host ++ tail)).head?, isHexDigit c = false := by
      rintro c ⟨⟩
      decide
    obtain ⟨legalInfo, legalRest⟩ := legal.split atSign
    have isHost : host ∈ Grammar.host := by
      refine mem_host_of_namesHost names ((legalRest.tail (by decide)).split bound).1 ?_ ?_
      · exact fun c member => common c (by simp [member])
      · exact fun c isSign member => apart c isSign (by simp [member])
    have isInfo : Holds isUserChar info := by
      refine holds_of_userinfo legalInfo ?_ ?_ (userinfo info (by rw [some]; rfl))
      · exact fun c member => common c (List.mem_append_left _ member)
      · exact fun c isSign member => apart c isSign (List.mem_append_left _ member)
    refine mem_authority_iff.mpr
      ⟨info ++ ['@'], host, tail, by simp, isHost, Or.inr ⟨info, rfl, isInfo⟩, isTail⟩

/-- The parts of a tidy text that can be read as a URL are those of an IRI. -/
theorem conforms_of_tidy {text : List Char} {url : Url} (read : Url.parse text = .ok url)
    (legal : ∀ c ∈ text, isLegal c = true) (tidy : Tidy text) :
    Conforms (Division.ofText text) := by
  obtain ⟨divided, isScheme⟩ := scheme_of_parse read
  have legalText : Holds isLegal text :=
    ⟨tidy.escaped, fun c member => Or.inr (legal c member)⟩
  have signs : ∀ c ∈ dividingSigns, isLegal c = true := forall_mem_of_all (by decide)
  have legalParts := (holds_iff_all signs divided).mp legalText
  have apart := Division.apart_ofText divided
  refine ⟨isScheme, fun part is => ?_, ?_, ?_, ?_⟩
  · exact mem_authority_of_served (served_of_parse read legal part is)
      (legalParts.authority part is) (List.all_eq_true.mp (tidy.authority part is))
      (apart.authority part is) (tidy.userinfo part is)
  · obtain ⟨common, noOpen, noClose⟩ := tidy.path
    obtain ⟨noQuestion, noHash⟩ := apart.path
    refine holds_of_legal legalParts.path ?_ ?_ ?_
    · exact fun c member => Or.inl (List.all_eq_true.mp common c member)
    · exact fun c isName => by simp [isPathTextChar, isPathChar, isName]
    · simp only [generalDelimiters, List.forall_mem_cons]
      exact ⟨Or.inl (by decide), Or.inl (by decide), Or.inr noQuestion, Or.inr noHash,
        Or.inr noOpen, Or.inr noClose, Or.inl (by decide), List.forall_mem_nil _⟩
  · intro part is
    obtain ⟨common, noOpen, noClose⟩ := tidy.query part is
    refine holds_of_legal (legalParts.query part is) ?_ ?_ ?_
    · intro c member
      have admitted := List.all_eq_true.mp common c member
      rw [Bool.or_eq_true] at admitted
      exact admitted.imp_right fun isPrivate => by simp [isQueryChar, isPrivate]
    · exact fun c isName => by simp [isQueryChar, isFragmentChar, isPathChar, isName]
    · simp only [generalDelimiters, List.forall_mem_cons]
      exact ⟨Or.inl (by decide), Or.inl (by decide), Or.inl (by decide),
        Or.inr (apart.query part is), Or.inr noOpen, Or.inr noClose, Or.inl (by decide),
        List.forall_mem_nil _⟩
  · intro part is
    obtain ⟨common, noHash, noOpen, noClose⟩ := tidy.fragment part is
    refine holds_of_legal (legalParts.fragment part is) ?_ ?_ ?_
    · exact fun c member => Or.inl (List.all_eq_true.mp common c member)
    · exact fun c isName => by simp [isFragmentChar, isPathChar, isName]
    · simp only [generalDelimiters, List.forall_mem_cons]
      exact ⟨Or.inl (by decide), Or.inl (by decide), Or.inl (by decide), Or.inr noHash,
        Or.inr noOpen, Or.inr noClose, Or.inl (by decide), List.forall_mem_nil _⟩

theorem mem_iri_of_tidy (iri : Iri) (tidy : Tidy iri.text.toList) :
    iri.text.toList ∈ Grammar.iri := by
  cases read : Url.parse iri.text.toList with
  | error error => exact absurd read (iri.parse_ne_error error)
  | ok url =>
      have legal : ∀ c ∈ iri.text.toList, isLegal c = true :=
        fun c member => by rw [isLegal, iri.isIllegal_eq_false member, Bool.not_false]
      exact (mem_iri_iff (scheme_of_parse read).1).mpr (conforms_of_tidy read legal tidy)

/-- The text of an IRI is one by the grammar if and only if it is tidy. -/
theorem mem_iri_iff_tidy (iri : Iri) : iri.text.toList ∈ Grammar.iri ↔ Tidy iri.text.toList :=
  ⟨tidy_of_mem_iri, iri.mem_iri_of_tidy⟩

example : Tidy "http://user@h:80/a%20b?c#d".toList := by
  decide

/-- An accepted text that is no IRI by the grammar. -/
def Strays (text : String) : Prop :=
  ∃ iri, Iri.parse text = .ok iri ∧ iri.text.toList ∉ Grammar.iri

theorem strays_of_not_tidy {text : String} (faultless : fault? text = none)
    (untidy : ¬Tidy text.toList) : Strays text :=
  ⟨⟨text, faultless⟩, parse_of_faultless faultless, fun is => untidy (tidy_of_mem_iri is)⟩

/-- A percent sign without digits, a second number sign, brackets in a path, a second at
sign, and a private character in a path are all accepted. -/
theorem strays_of_lenience :
    Strays "http://h/%zz" ∧ Strays "http://h/#a#b" ∧ Strays "http://h/[a]" ∧
      Strays "http://a@b@h/" ∧ Strays "http://h/\ue000" := by
  refine ⟨?_, ?_, ?_, ?_, ?_⟩
  all_goals exact strays_of_not_tidy (by decide +kernel) (by decide +kernel)

end ContextStream.Iri
