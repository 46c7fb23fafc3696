import ContextStream.Proofs.Iri.Words
import ContextStream.Proofs.Text.Pieces
import ContextStream.Url.Parser

/-!
# The division of an IRI

The signs `:`, `/`, `?` and `#` divide a text into scheme, authority, path, query and
fragment, whether it is an IRI or not. It is one if each part is what it should be.
-/

namespace ContextStream

namespace Url.Parts

open Text

/-- What stands in front of the query holds neither its sign nor that of the fragment. -/
theorem mem_front {text : List Char} {c : Char} (member : c ∈ (ofText text).front) :
    c ∈ text ∧ c ≠ '?' ∧ c ≠ '#' := by
  have inBefore : c ∈ (cutAt (· == '#') text).1 := by
    rw [← cutAt_append (· == '?') (cutAt (· == '#') text).1]
    exact List.mem_append_left _ member
  have inText : c ∈ text := by
    rw [← cutAt_append (· == '#') text]
    exact List.mem_append_left _ inBefore
  refine ⟨inText, ?_, ?_⟩
  · simpa using eq_false_of_mem_cutAt member
  · simpa using eq_false_of_mem_cutAt inBefore

/-- A query does not hold the sign of the fragment. -/
theorem not_mem_query {text part : List Char} (is : part ∈ (ofText text).query) :
    '#' ∉ part := by
  intro member
  have inBefore : '#' ∈ (cutAt (· == '#') text).1 := by
    rw [← cutAt_append (· == '?') (cutAt (· == '#') text).1]
    have announced : (cutAt (· == '?') (cutAt (· == '#') text).1).2.tail? = some part := is
    refine List.mem_append_right _ (List.mem_of_mem_tail ?_)
    rwa [List.tail_eq_tail?, announced]
  simpa using eq_false_of_mem_cutAt inBefore

end Url.Parts

namespace Iri

open ContextStream.Text ContextStream.Url
open scoped Computability

/-- The parts of a text. -/
structure Division where
  scheme : List Char
  authority : Option (List Char)
  path : List Char
  query : Option (List Char)
  fragment : Option (List Char)

namespace Division

/-- Divides what stands in front of the query: two slashes announce an authority, which
the next slash ends. -/
def ofFront : List Char → Option (List Char) × List Char
  | '/' :: '/' :: rest => (some (cutAt (· == '/') rest).1, (cutAt (· == '/') rest).2)
  | path => (none, path)

/-- Divides a text. -/
def ofText (text : List Char) : Division :=
  let (scheme, rest) := cutAt (· == ':') text
  let parts := Parts.ofText rest.tail
  { scheme
    authority := (ofFront parts.front).1
    path := (ofFront parts.front).2
    query := parts.query
    fragment := parts.fragment }

theorem ofFront_of_not_prefix {path : List Char} (noSlashes : ¬['/', '/'] <+: path) :
    ofFront path = (none, path) := by
  unfold ofFront
  split
  · next rest => exact absurd ⟨rest, rfl⟩ noSlashes
  · rfl

/-- What stands in front of the first colon is the scheme. -/
theorem ofText_eq {front rest : List Char} (absent : ':' ∉ front) :
    ofText (front ++ ':' :: rest) =
      { scheme := front
        authority := (ofFront (Parts.ofText rest).front).1
        path := (ofFront (Parts.ofText rest).front).2
        query := (Parts.ofText rest).query
        fragment := (Parts.ofText rest).fragment } := by
  have cut : cutAt (· == ':') (front ++ ':' :: rest) = (front, ':' :: rest) := by
    refine cutAt_eq_iff.mpr ⟨rfl, absent, ?_⟩
    rintro d ⟨⟩
    rfl
  simp only [ofText, cut, List.tail_cons]

/-! ## Signs in their places -/

/-- Signs that divide a text stand in no part that they end. -/
structure Apart (division : Division) : Prop where
  authority : ∀ part ∈ division.authority, ∀ c ∈ ['/', '?', '#'], c ∉ part
  path : '?' ∉ division.path ∧ '#' ∉ division.path
  query : ∀ part ∈ division.query, '#' ∉ part

theorem mem_of_mem_authority {front part : List Char} (is : part ∈ (ofFront front).1) :
    ∃ rest, front = '/' :: '/' :: rest ∧ part = (cutAt (· == '/') rest).1 := by
  unfold ofFront at is
  split at is
  · next rest => exact ⟨rest, rfl, (Option.mem_some.mp is).symm⟩
  · cases is

theorem mem_path {front : List Char} {c : Char} (member : c ∈ (ofFront front).2) :
    c ∈ front := by
  unfold ofFront at member
  split at member
  · next rest =>
      have inRest : c ∈ rest := by
        rw [← cutAt_append (· == '/') rest]
        exact List.mem_append_right _ member
      exact List.mem_cons_of_mem _ (List.mem_cons_of_mem _ inRest)
  · exact member

theorem apart_ofText {text : List Char} (divided : ':' ∈ text) : (ofText text).Apart := by
  obtain ⟨front, rest, rfl, absent⟩ := List.eq_append_cons_of_mem divided
  rw [ofText_eq absent]
  refine ⟨?_, ?_, ?_⟩
  · intro part is
    obtain ⟨behind, announced, rfl⟩ := mem_of_mem_authority is
    have inFront : ∀ {c}, c ∈ (cutAt (· == '/') behind).1 → c ∈ (Parts.ofText rest).front := by
      intro c member
      rw [announced, ← cutAt_append (· == '/') behind]
      simp [member]
    simp only [List.forall_mem_cons]
    refine ⟨fun member => ?_, fun member => ?_, fun member => ?_, nofun⟩
    · simpa using eq_false_of_mem_cutAt member
    · exact (Parts.mem_front (inFront member)).2.1 rfl
    · exact (Parts.mem_front (inFront member)).2.2 rfl
  · exact ⟨fun member => (Parts.mem_front (mem_path member)).2.1 rfl,
      fun member => (Parts.mem_front (mem_path member)).2.2 rfl⟩
  · exact fun part is => Parts.not_mem_query is

/-- All parts of a division have a property. -/
structure All (keeps : List Char → Prop) (division : Division) : Prop where
  scheme : keeps division.scheme
  authority : ∀ part ∈ division.authority, keeps part
  path : keeps division.path
  query : ∀ part ∈ division.query, keeps part
  fragment : ∀ part ∈ division.fragment, keeps part

end Division

namespace Grammar

/-! ## Properties of all parts -/

section AllParts

variable {admits : Char → Bool}

theorem holds_append_iff {front back : List Char} (bound : ∀ c ∈ back.head?, isHexDigit c = false) :
    Holds admits (front ++ back) ↔ Holds admits front ∧ Holds admits back :=
  ⟨fun holds => holds.split bound, fun both => (closed_holds admits).append both.1 both.2⟩

theorem holds_cons_iff {c : Char} {word : List Char} (admitted : admits c = true)
    (noPercent : c ≠ '%') : Holds admits (c :: word) ↔ Holds admits word :=
  ⟨fun holds => holds.tail noPercent,
    (closed_holds admits).append (holds_singleton admitted noPercent)⟩

/-- Signs that divide a text. -/
def dividingSigns : List Char :=
  [':', '/', '?', '#']

theorem holds_cutAt_iff {c : Char} (isSign : c ∈ dividingSigns) {word : List Char} :
    Holds admits word ↔
      Holds admits (cutAt (· == c) word).1 ∧ Holds admits (cutAt (· == c) word).2 := by
  have bound : ∀ d ∈ (cutAt (· == c) word).2.head?, isHexDigit d = false := by
    have all : ∀ c ∈ dividingSigns, isHexDigit c = false := forall_mem_of_all (by decide)
    intro d begins
    obtain rfl : d = c := by simpa using eq_true_of_mem_head?_cutAt begins
    exact all d isSign
  rw [← holds_append_iff bound, cutAt_append]

/-- What a sign announces. -/
theorem holds_tail?_iff {c : Char} (isSign : c ∈ dividingSigns) (admitted : admits c = true)
    {word : List Char} :
    Holds admits (cutAt (· == c) word).2 ↔
      ∀ part ∈ (cutAt (· == c) word).2.tail?, Holds admits part := by
  have all : ∀ c ∈ dividingSigns, c ≠ '%' := forall_mem_of_all (by decide)
  have begins : ∀ d ∈ (cutAt (· == c) word).2.head?, d = c :=
    fun d isHead => by simpa using eq_true_of_mem_head?_cutAt isHead
  cases rest : (cutAt (· == c) word).2 with
  | nil => simp [(closed_holds admits).nil]
  | cons d rest' =>
      rw [rest] at begins
      obtain rfl := begins d rfl
      rw [holds_cons_iff admitted (all d isSign)]
      simp

theorem holds_ofFront_iff (slash : admits '/' = true) (front : List Char) :
    Holds admits front ↔ (∀ part ∈ (Division.ofFront front).1, Holds admits part) ∧
      Holds admits (Division.ofFront front).2 := by
  by_cases slashes : ['/', '/'] <+: front
  · obtain ⟨rest, rfl⟩ := slashes
    change Holds admits ('/' :: '/' :: rest) ↔
      (∀ part ∈ some (cutAt (· == '/') rest).1, Holds admits part) ∧
        Holds admits (cutAt (· == '/') rest).2
    rw [holds_cons_iff slash (by decide), holds_cons_iff slash (by decide),
      holds_cutAt_iff (c := '/') (by decide)]
    simp
  · simp [Division.ofFront_of_not_prefix slashes]

/-- What holds of a text holds of all its parts. -/
theorem holds_iff_all (signs : ∀ c ∈ dividingSigns, admits c = true) {text : List Char}
    (divided : ':' ∈ text) : Holds admits text ↔ (Division.ofText text).All (Holds admits) := by
  have question : '?' ∈ dividingSigns := by decide
  have hash : '#' ∈ dividingSigns := by decide
  obtain ⟨front, rest, rfl, absent⟩ := List.eq_append_cons_of_mem divided
  have bound : ∀ c ∈ (':' :: rest).head?, isHexDigit c = false := by
    rintro c ⟨⟩
    decide
  have behind : Holds admits rest ↔ Holds admits (Parts.ofText rest).front ∧
      (∀ part ∈ (Parts.ofText rest).query, Holds admits part) ∧
        ∀ part ∈ (Parts.ofText rest).fragment, Holds admits part := by
    rw [holds_cutAt_iff hash, holds_tail?_iff hash (signs _ hash), holds_cutAt_iff question,
      holds_tail?_iff question (signs _ question), and_assoc]
    rfl
  rw [holds_append_iff bound, holds_cons_iff (signs ':' (by decide)) (by decide), behind,
    holds_ofFront_iff (signs '/' (by decide)) (Parts.ofText rest).front, Division.ofText_eq absent]
  constructor
  · rintro ⟨inScheme, ⟨inAuthority, inPath⟩, inQuery, inFragment⟩
    exact ⟨inScheme, inAuthority, inPath, inQuery, inFragment⟩
  · rintro ⟨inScheme, inAuthority, inPath, inQuery, inFragment⟩
    exact ⟨inScheme, ⟨inAuthority, inPath⟩, inQuery, inFragment⟩

end AllParts

/-! ## The parts of an authority -/

/-- An authority has three parts, two of which may be missing. -/
theorem mem_authority_iff {word : List Char} :
    word ∈ authority ↔ ∃ user body tail, word = user ++ body ++ tail ∧ body ∈ host ∧
      (user = [] ∨ ∃ info, user = info ++ ['@'] ∧ Holds isUserChar info) ∧
      (tail = [] ∨ ∃ digits, tail = ':' :: digits ∧ ∀ c ∈ digits, c.isDigit = true) := by
  constructor
  · rintro ⟨_, ⟨user, isUser, body, isHost, rfl⟩, tail, isTail, rfl⟩
    refine ⟨user, body, tail, rfl, isHost, ?_, ?_⟩
    · refine (mem_optional_iff.mp isUser).imp_right ?_
      rintro ⟨info, isInfo, _, ⟨⟩, rfl⟩
      exact ⟨info, rfl, mem_userinfo_iff.mp isInfo⟩
    · refine (mem_optional_iff.mp isTail).imp_right ?_
      rintro ⟨_, ⟨⟩, digits, isPort, rfl⟩
      exact ⟨digits, rfl, mem_kstar_one_iff.mp isPort⟩
  · rintro ⟨user, body, tail, rfl, isHost, isUser, isTail⟩
    refine Language.append_mem_mul (Language.append_mem_mul ?_ isHost) ?_
    · refine mem_optional_iff.mpr (isUser.imp_right ?_)
      rintro ⟨info, rfl, holds⟩
      exact Language.append_mem_mul (mem_userinfo_iff.mpr holds) (mem_sign '@')
    · refine mem_optional_iff.mpr (isTail.imp_right ?_)
      rintro ⟨digits, rfl, all⟩
      exact cons_mem_sign_mul (mem_kstar_one_iff.mpr all)

/-- Characters of an authority. -/
def isAuthorityChar (c : Char) : Bool :=
  isHostChar c || c == '@'

theorem isHostChar_of_isUserChar {c : Char} (admitted : isUserChar c = true) :
    isHostChar c = true := by
  rcases Bool.or_eq_true_iff.mp admitted with isName | colon
  · exact isHostChar_of_isNameChar isName
  · rw [beq_iff_eq.mp colon]
    decide

theorem holds_of_mem_authority {word : List Char} (is : word ∈ authority) :
    Holds isAuthorityChar word := by
  obtain ⟨user, body, tail, rfl, isHost, isUser, isTail⟩ := mem_authority_iff.mp is
  have closed := closed_holds isAuthorityChar
  have widens : ∀ c, isHostChar c = true → isAuthorityChar c = true :=
    fun c admitted => by simp [isAuthorityChar, admitted]
  refine closed.append (closed.append ?_ ((within_host body isHost).imp fun c _ => widens c)) ?_
  · rcases isUser with rfl | ⟨info, rfl, holds⟩
    · exact closed.nil
    · refine closed.append ?_ (holds_singleton (by decide) (by decide))
      exact holds.imp fun c _ admitted => widens c (isHostChar_of_isUserChar admitted)
  · rcases isTail with rfl | ⟨digits, rfl, all⟩
    · exact closed.nil
    · have isPort : Within port InHost := closed_inHost.within_kstar within_digit
      have colon : InHost [':'] := holds_singleton (by decide) (by decide)
      have whole := closed_inHost.append colon (isPort digits (mem_kstar_one_iff.mpr all))
      exact whole.imp fun c _ => widens c

theorem not_mem_of_holds {admits : Char → Bool} {word : List Char} (holds : Holds admits word)
    {c : Char} (noPercent : c ≠ '%') (refused : admits c = false) : c ∉ word := by
  intro member
  rcases holds.admitted c member with percent | admitted
  · exact noPercent percent
  · rw [refused] at admitted
    cases admitted

theorem not_mem_authority {word : List Char} (is : word ∈ authority) :
    '/' ∉ word ∧ '?' ∉ word ∧ '#' ∉ word := by
  have absent : ∀ {c : Char}, c ≠ '%' → isAuthorityChar c = false → c ∉ word :=
    fun noPercent refused => not_mem_of_holds (holds_of_mem_authority is) noPercent refused
  exact ⟨absent (by decide) (by decide), absent (by decide) (by decide),
    absent (by decide) (by decide)⟩

/-! ## The parts of an IRI -/

/-- The parts of a text are those of an IRI. -/
structure Conforms (division : Division) : Prop where
  scheme : division.scheme ∈ scheme
  authority : ∀ part ∈ division.authority, part ∈ authority
  path : Holds isPathTextChar division.path
  query : ∀ part ∈ division.query, Holds isQueryChar part
  fragment : ∀ part ∈ division.fragment, Holds isFragmentChar part

theorem mem_hierarchy_iff {front : List Char} :
    front ∈ hierarchy ↔ (∀ part ∈ (Division.ofFront front).1, part ∈ authority) ∧
      Holds isPathTextChar (Division.ofFront front).2 := by
  have others : hierarchy =
      sign '/' * sign '/' * authority * pathAbempty + (pathAbsolute + pathRootless + 1) := by
    simp only [hierarchy, add_assoc]
  rw [others, Language.mem_add]
  by_cases slashes : ['/', '/'] <+: front
  · obtain ⟨rest, rfl⟩ := slashes
    have noPath : ¬['/', '/'] ++ rest ∈ pathAbsolute + pathRootless + 1 :=
      fun isPath => (mem_path_iff.mp isPath).2 ⟨rest, rfl⟩
    rw [or_iff_left noPath]
    constructor
    · rintro ⟨_, ⟨_, ⟨_, ⟨⟩, _, ⟨⟩, rfl⟩, body, isBody, rfl⟩, path, isPath, whole⟩
      obtain ⟨holds, begins⟩ := mem_pathAbempty_iff.mp isPath
      have same : body ++ path = rest := by simpa using whole
      have cut : cutAt (· == '/') rest = (body, path) := by
        rw [← same]
        apply cutAt_append_of_head
        · intro c member
          rw [beq_eq_false_iff_ne]
          rintro rfl
          exact (not_mem_authority isBody).1 member
        · exact fun c isHead => beq_iff_eq.mpr (begins c isHead)
      change (∀ part ∈ some (cutAt (· == '/') rest).1, part ∈ authority) ∧
        Holds isPathTextChar (cutAt (· == '/') rest).2
      rw [cut]
      exact ⟨fun part is => Option.mem_some.mp is ▸ isBody, holds⟩
    · rintro ⟨isBody, holds⟩
      have begins : ∀ c ∈ (cutAt (· == '/') rest).2.head?, c = '/' :=
        fun c isHead => by simpa using eq_true_of_mem_head?_cutAt isHead
      have isAuthority : (cutAt (· == '/') rest).1 ∈ authority := isBody _ rfl
      have isPath : (cutAt (· == '/') rest).2 ∈ pathAbempty :=
        mem_pathAbempty_iff.mpr ⟨holds, begins⟩
      have whole := Language.append_mem_mul (Language.append_mem_mul
        (Language.append_mem_mul (mem_sign '/') (mem_sign '/')) isAuthority) isPath
      rwa [List.append_assoc, cutAt_append] at whole
  · have noAuthority : ¬front ∈ sign '/' * sign '/' * authority * pathAbempty := by
      rintro ⟨_, ⟨_, ⟨_, ⟨⟩, _, ⟨⟩, rfl⟩, body, -, rfl⟩, path, -, rfl⟩
      exact slashes ⟨body ++ path, by simp⟩
    rw [or_iff_right noAuthority, mem_path_iff, Division.ofFront_of_not_prefix slashes]
    simp [slashes]

theorem not_mem_hierarchy {front : List Char} (is : front ∈ hierarchy) :
    '?' ∉ front ∧ '#' ∉ front := by
  have inPath : ∀ {path : List Char}, Holds isPathTextChar path → '?' ∉ path ∧ '#' ∉ path :=
    fun holds => ⟨not_mem_of_holds holds (by decide) (by decide),
      not_mem_of_holds holds (by decide) (by decide)⟩
  rcases is with ((⟨_, ⟨_, ⟨_, ⟨⟩, _, ⟨⟩, rfl⟩, body, isBody, rfl⟩, path, isPath, rfl⟩ | absolute) |
    rootless) | nothing
  · obtain ⟨-, noQuestion, noHash⟩ := not_mem_authority isBody
    obtain ⟨noQuestion', noHash'⟩ := inPath (mem_pathAbempty_iff.mp isPath).1
    simp [noQuestion, noQuestion', noHash, noHash']
  · exact inPath (mem_path_iff.mp (Or.inl (Or.inl absolute))).1
  · exact inPath (mem_path_iff.mp (Or.inl (Or.inr rootless))).1
  · exact inPath (mem_path_iff.mp (Or.inr nothing)).1

/-- A part that a sign announces, or nothing. -/
theorem mem_optional_sign_mul_iff {c : Char} {rule : Language Char} {word : List Char} :
    word ∈ optional (sign c * rule) ↔
      (∀ d ∈ word.head?, d = c) ∧ ∀ part ∈ word.tail?, part ∈ rule := by
  rw [mem_optional_iff]
  cases word with
  | nil => simp
  | cons d word => simp [cons_mem_sign_mul_iff]

theorem mem_rest_iff {rest : List Char} :
    rest ∈ hierarchy * optional (sign '?' * query) * optional (sign '#' * fragment) ↔
      (Parts.ofText rest).front ∈ hierarchy ∧
        (∀ part ∈ (Parts.ofText rest).query, Holds isQueryChar part) ∧
        ∀ part ∈ (Parts.ofText rest).fragment, Holds isFragmentChar part := by
  constructor
  · rintro ⟨_, ⟨front, isFront, asked, isAsked, rfl⟩, marked, isMarked, rfl⟩
    obtain ⟨asks, isQuery⟩ := mem_optional_sign_mul_iff.mp isAsked
    obtain ⟨marks, isFragment⟩ := mem_optional_sign_mul_iff.mp isMarked
    obtain ⟨noQuestion, noHash⟩ := not_mem_hierarchy isFront
    have noHash' : '#' ∉ asked := by
      cases asked with
      | nil => simp
      | cons d asked =>
          have behind := not_mem_of_holds (c := '#') (mem_query_iff.mp (isQuery asked rfl))
            (by decide) (by decide)
          simp [asks d rfl, behind]
    have outer : cutAt (· == '#') (front ++ asked ++ marked) = (front ++ asked, marked) :=
      cutAt_eq_iff.mpr ⟨rfl, by simp [noHash, noHash'], marks⟩
    have inner : cutAt (· == '?') (front ++ asked) = (front, asked) :=
      cutAt_eq_iff.mpr ⟨rfl, noQuestion, asks⟩
    simp only [Parts.ofText, outer, inner]
    exact ⟨isFront, fun part is => mem_query_iff.mp (isQuery part is),
      fun part is => mem_fragment_iff.mp (isFragment part is)⟩
  · rcases outer : cutAt (· == '#') rest with ⟨before, marked⟩
    rcases inner : cutAt (· == '?') before with ⟨front, asked⟩
    simp only [Parts.ofText, outer, inner]
    rintro ⟨isFront, isQuery, isFragment⟩
    obtain ⟨rfl, -, marks⟩ := cutAt_eq_iff.mp outer
    obtain ⟨rfl, -, asks⟩ := cutAt_eq_iff.mp inner
    refine Language.append_mem_mul (Language.append_mem_mul isFront ?_) ?_
    · exact mem_optional_sign_mul_iff.mpr ⟨asks, fun part is => mem_query_iff.mpr (isQuery part is)⟩
    · exact mem_optional_sign_mul_iff.mpr
        ⟨marks, fun part is => mem_fragment_iff.mpr (isFragment part is)⟩

theorem holds_of_mem_scheme {word : List Char} (is : word ∈ scheme) : Holds isSchemeChar word := by
  obtain ⟨_, ⟨c, letter, rfl⟩, others, isOthers, rfl⟩ := is
  have noPercent : ∀ {d : Char}, isSchemeChar d = true → d ≠ '%' := by
    rintro d admitted rfl
    exact absurd admitted (by decide)
  have admitted : isSchemeChar c = true := by simp [isSchemeChar, Char.isAlphanum, letter]
  have single : Within (one isSchemeChar) (Holds isSchemeChar) :=
    within_one fun d isChar => holds_singleton isChar (noPercent isChar)
  exact (closed_holds _).append (single _ (singleton_mem_one admitted))
    ((closed_holds _).within_kstar single _ isOthers)

theorem not_mem_scheme {word : List Char} (is : word ∈ scheme) : ':' ∉ word :=
  not_mem_of_holds (holds_of_mem_scheme is) (by decide) (by decide)

theorem mem_of_mem_iri {word : List Char} (is : word ∈ iri) : ':' ∈ word := by
  obtain ⟨_, ⟨_, ⟨_, ⟨front, -, _, ⟨⟩, rfl⟩, _, -, rfl⟩, _, -, rfl⟩, _, -, rfl⟩ := is
  simp

/-- A text with a colon is an IRI if its parts are those of one. -/
theorem mem_iri_iff {word : List Char} (divided : ':' ∈ word) :
    word ∈ iri ↔ Conforms (Division.ofText word) := by
  obtain ⟨front, rest, rfl, absent⟩ := List.eq_append_cons_of_mem divided
  have grouped : iri = scheme * (sign ':' *
      (hierarchy * optional (sign '?' * query) * optional (sign '#' * fragment))) := by
    simp only [iri, mul_assoc]
  have whole : front ++ ':' :: rest ∈ iri ↔ front ∈ scheme ∧
      rest ∈ hierarchy * optional (sign '?' * query) * optional (sign '#' * fragment) := by
    rw [grouped]
    constructor
    · rintro ⟨front', isScheme, _, ⟨_, ⟨⟩, rest', isRest, rfl⟩, same⟩
      have begins : ∀ d ∈ (':' :: rest).head?, d = ':' := by
        rintro d ⟨⟩
        rfl
      have begins' : ∀ d ∈ (':' :: rest').head?, d = ':' := by
        rintro d ⟨⟩
        rfl
      have cut := cutAt_eq_iff.mpr ⟨rfl, absent, begins⟩
      have cut' := cutAt_eq_iff.mpr ⟨same, not_mem_scheme isScheme, begins'⟩
      cases cut.symm.trans cut'
      exact ⟨isScheme, isRest⟩
    · rintro ⟨isScheme, isRest⟩
      exact Language.append_mem_mul isScheme (cons_mem_sign_mul isRest)
  rw [whole, mem_rest_iff, mem_hierarchy_iff, Division.ofText_eq absent]
  constructor
  · rintro ⟨isScheme, ⟨isAuthority, isPath⟩, isQuery, isFragment⟩
    exact ⟨isScheme, isAuthority, isPath, isQuery, isFragment⟩
  · rintro ⟨isScheme, isAuthority, isPath, isQuery, isFragment⟩
    exact ⟨isScheme, ⟨isAuthority, isPath⟩, isQuery, isFragment⟩

end Grammar

end Iri

end ContextStream
