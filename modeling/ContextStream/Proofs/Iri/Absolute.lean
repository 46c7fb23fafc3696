import ContextStream.Proofs.Iri.Conformance
import ContextStream.Proofs.Iri.Identifiers
import ContextStream.Proofs.Url.Shape

/-!
# Accepted IRIs are absolute

References are divided and resolved against a base by the rules of RFC 3986. A reference
with a scheme takes nothing from the base. The text of every IRI has one, and all readings
agree on it: what stands before the first colon, what the division of references finds, and
the scheme of the URL, which a lenient reader of references finds as well.
-/

namespace ContextStream

open ContextStream.Text

namespace Iri

/-! ## References -/

/-- The parts of a reference. -/
structure Reference where
  scheme : Option (List Char)
  authority : Option (List Char)
  path : List Char
  query : Option (List Char)
  fragment : Option (List Char)
  deriving DecidableEq

namespace Reference

/-- The parts of a reference behind its scheme, if it has one. -/
def behind (scheme : Option (List Char)) (text : List Char) : Reference :=
  let parts := Url.Parts.ofText text
  let (authority, path) := Division.ofFront parts.front
  { scheme, authority, path, query := parts.query, fragment := parts.fragment }

/-- Divides a reference. A scheme stands before a colon in front of which no other sign
divides the text. -/
def ofText (text : List Char) : Reference :=
  match cutAt (· ∈ Grammar.dividingSigns) text with
  | (first :: scheme, ':' :: rest) => behind (some (first :: scheme)) rest
  | _ => behind none text

/-- Walks along the segments behind slashes; `kept` is what has been kept, the last part
first. -/
def walkDots (kept : List (List Char)) : List (List Char) → List (List Char)
  | [] => kept
  | segment :: rest =>
      let closed := if rest.isEmpty then [['/']] else []
      if segment = ['.'] then walkDots (closed ++ kept) rest
      else if segment = ['.', '.'] then walkDots (closed ++ kept.tail) rest
      else walkDots (('/' :: segment) :: kept) rest

/-- Drops the dots that a path without a slash in front begins with. -/
def dropDots : List (List Char) → List (List Char)
  | [] => []
  | segment :: rest =>
      if segment = ['.'] ∨ segment = ['.', '.'] then dropDots rest else segment :: rest

/-- Removes the segments of dots from a path. -/
def removeDots (path : List Char) : List Char :=
  match dropDots (splitBy (· == '/') path) with
  | [] => []
  | first :: rest => (walkDots (if first.isEmpty then [] else [first]) rest).reverse.flatten

/-- Puts a relative path into the place of the last segment of the base. -/
def merge (base : Reference) (path : List Char) : List Char :=
  if base.authority.isSome ∧ base.path = [] then '/' :: path
  else (base.path.reverse.dropWhile (· != '/')).reverse ++ path

/-- Resolves a reference against a base, by the strict rules. -/
def resolve (base reference : Reference) : Reference :=
  match reference.scheme, reference.authority, reference.path with
  | some _, _, path => { reference with path := removeDots path }
  | none, some _, path => { reference with scheme := base.scheme, path := removeDots path }
  | none, none, [] =>
      { base with
        query := reference.query.orElse fun _ => base.query
        fragment := reference.fragment }
  | none, none, '/' :: path =>
      { reference with
        scheme := base.scheme
        authority := base.authority
        path := removeDots ('/' :: path) }
  | none, none, path =>
      { reference with
        scheme := base.scheme
        authority := base.authority
        path := removeDots (merge base path) }

/-- A reference with a scheme takes nothing from the base. -/
theorem resolve_of_scheme {reference : Reference} {scheme : List Char}
    (is : reference.scheme = some scheme) (base : Reference) :
    resolve base reference = { reference with path := removeDots reference.path } := by
  simp only [resolve, is]

example :
    let base := ofText "http://a/b/c/d;p?q".toList
    (["../g;x=1/./y", "?y", "g:h", "//g/.", "../../../g"].map fun text =>
      resolve base (ofText text.toList)) =
      ["http://a/b/g;x=1/y", "http://a/b/c/d;p?y", "g:h", "http://g/", "http://a/g"].map
        fun text => ofText text.toList := by
  decide +kernel

/-- The scheme of a reference is found in front of the first colon. -/
theorem ofText_of_scheme {front : List Char} (isScheme : front ∈ Grammar.scheme)
    (rest : List Char) : ofText (front ++ ':' :: rest) = behind (some front) rest := by
  have apart : ∀ c ∈ front, decide (c ∈ Grammar.dividingSigns) = false := by
    have refused : ∀ c ∈ Grammar.dividingSigns, c ≠ '%' ∧ Grammar.isSchemeChar c = false :=
      forall_mem_of_all (by decide)
    intro c member
    rw [decide_eq_false_iff_not]
    intro divides
    obtain ⟨noPercent, noScheme⟩ := refused c divides
    exact Grammar.not_mem_of_holds (Grammar.holds_of_mem_scheme isScheme) noPercent noScheme member
  have cut : cutAt (· ∈ Grammar.dividingSigns) (front ++ ':' :: rest) = (front, ':' :: rest) :=
    cutAt_append_of_head apart (by simp [Grammar.dividingSigns])
  obtain ⟨_, ⟨first, -, rfl⟩, others, -, rfl⟩ := isScheme
  rw [ofText, cut]
  rfl

end Reference

/-! ## The text of an IRI -/

/-- A text of legal characters is not trimmed. -/
theorem trimReference_of_legal {text : List Char} (legal : ∀ c ∈ text, isIllegal c = false) :
    Url.trimReference text = text := by
  have visible : ∀ c ∈ text, 0x20 < c.toNat :=
    fun c member => lt_toNat_of_legal (legal c member)
  have kept : ∀ {part : List Char}, (∀ c ∈ part, 0x20 < c.toNat) →
      part.dropWhile (fun c => decide (c.toNat ≤ 0x20)) = part := by
    intro part all
    cases part with
    | nil => rfl
    | cons c part =>
        have head := all c List.mem_cons_self
        exact List.dropWhile_cons_of_neg (by simpa using head)
  have turned : ∀ c ∈ text.reverse, 0x20 < c.toNat :=
    fun c member => visible c (List.mem_reverse.mp member)
  simp only [Url.trimReference, kept visible, kept turned, List.reverse_reverse]
  refine List.filter_eq_self.mpr fun c member => ?_
  have head := visible c member
  simp only [bne_iff_ne, Bool.and_eq_true, ne_eq]
  refine ⟨⟨?_, ?_⟩, ?_⟩
  all_goals
    rintro rfl
    exact absurd head (by decide)

/-- What it means that an IRI is absolute. -/
structure IsAbsolute (iri : Iri) : Prop where
  /-- No other text is read as the IRI. -/
  parse : ∀ text, Iri.parse text = .ok iri ↔ text = iri.text
  /-- The scheme is a letter with letters, digits, and some signs behind it. -/
  scheme : iri.scheme.toList ∈ Grammar.scheme
  text : ∃ rest, iri.text = iri.scheme ++ ":" ++ rest
  /-- A reader that trims texts and skips tabs and line breaks finds the same URL, -/
  url : Url.parse (Url.trimReference iri.text.toList) = .ok iri.url
  /-- whose scheme is that of the text, in small letters. -/
  urlScheme : iri.url.scheme = iri.scheme.toLower
  /-- As a reference the text has the scheme too, -/
  reference : (Reference.ofText iri.text.toList).scheme = some iri.scheme.toList
  /-- and is resolved in the same way against all bases. -/
  resolve : ∀ base base', Reference.resolve base (Reference.ofText iri.text.toList) =
    Reference.resolve base' (Reference.ofText iri.text.toList)

theorem parse_url (iri : Iri) : Url.parse iri.text.toList = .ok iri.url := by
  cases read : Url.parse iri.text.toList with
  | error error => exact absurd read (iri.parse_ne_error error)
  | ok url => rw [url_eq_of_parse read]

theorem parse_eq_ok_iff {text : String} {iri : Iri} : parse text = .ok iri ↔ text = iri.text := by
  constructor
  · intro read
    unfold parse at read
    split at read
    · cases read
      rfl
    · cases read
  · rintro rfl
    exact parse_of_faultless iri.faultless

/-- The URL of an IRI is made behind a scheme, with which the text begins. -/
theorem exists_scheme (iri : Iri) :
    ∃ rest, iri.text.toList = iri.scheme.toList ++ ':' :: rest ∧
      iri.scheme.toList ∈ Grammar.scheme ∧
      Url.parseAfterScheme iri.scheme.toLower rest = .ok iri.url := by
  obtain ⟨front, isScheme, rest, whole, read⟩ := exists_scheme_of_parse iri.parse_url
  have cut : cutAt (· == ':') iri.text.toList = (front, ':' :: rest) := by
    refine cutAt_eq_iff.mpr ⟨whole.symm, Grammar.not_mem_scheme isScheme, ?_⟩
    rintro c ⟨⟩
    rfl
  have is : iri.scheme = String.ofList front :=
    congrArg (String.ofList ·) (congrArg Prod.fst cut)
  have small : iri.scheme.toLower = String.ofList (front.map Char.toLower) := by
    have mapped : (String.ofList front).toLower.toList =
        (String.ofList front).toList.map Char.toLower := String.toList_map
    rw [is, ← String.toList_inj, mapped, String.toList_ofList, String.toList_ofList]
  rw [small, is, String.toList_ofList]
  exact ⟨rest, whole, isScheme, read⟩

/-- Every IRI is absolute. -/
theorem isAbsolute (iri : Iri) : IsAbsolute iri := by
  obtain ⟨rest, whole, isScheme, read⟩ := iri.exists_scheme
  have reference : (Reference.ofText iri.text.toList).scheme = some iri.scheme.toList := by
    rw [whole, Reference.ofText_of_scheme isScheme]
    rfl
  exact {
    parse := fun _ => parse_eq_ok_iff
    scheme := isScheme
    text := by
      refine ⟨String.ofList rest, ?_⟩
      rw [← String.toList_inj, whole]
      simp
    url := by
      rw [trimReference_of_legal fun c => iri.isIllegal_eq_false]
      exact iri.parse_url
    urlScheme := (Url.made_of_parseAfterScheme read).scheme
    reference
    resolve := fun base base' => by
      rw [Reference.resolve_of_scheme reference, Reference.resolve_of_scheme reference] }

end Iri

end ContextStream
