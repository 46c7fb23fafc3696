import ContextStream.Config.Basic
import ContextStream.Proofs.Iri.Absolute

/-!
# The names of streams

The short name of an IRI should be the last segment of its path that is not empty, else its
host, else the word for what has no name. It is, unless the IRI is blank: a scheme with
nothing behind it but a query or a fragment. A blank IRI is called by its empty path.
-/

namespace ContextStream

open ContextStream.Text

namespace Url

/-! ## What a URL should be called -/

/-- The segments of a path, of which a bare path is a single one. -/
def Path.pieces : Path → List String
  | .rooted segments => segments
  | .bare text => [text]

/-- A name that a URL should be called by. -/
inductive Called (url : Url) : String → Prop
  | segment {front back : List String} {name : String}
      (split : url.path.pieces = front ++ name :: back) (nonempty : name ≠ "")
      (last : ∀ piece ∈ back, piece = "") : Called url name
  | host {host : Host} (noSegment : ∀ piece ∈ url.path.pieces, piece = "")
      (is : url.host = some host) : Called url host.text
  | nothing (noSegment : ∀ piece ∈ url.path.pieces, piece = "") (noHost : url.host = none) :
      Called url "unnamed"

/-- The last segment that is not empty is the first one of them from behind. -/
theorem find?_reverse_eq_some_iff {pieces : List String} {name : String} :
    pieces.reverse.find? (· ≠ "") = some name ↔ name ≠ "" ∧
      ∃ front back, pieces = front ++ name :: back ∧ ∀ piece ∈ back, piece = "" := by
  rw [List.find?_eq_some_iff_append]
  simp only [ne_eq, decide_not, Bool.not_eq_eq_eq_not, Bool.not_true, decide_eq_false_iff_not,
    Bool.not_not, decide_eq_true_eq]
  refine and_congr_right fun _ => ⟨?_, ?_⟩
  · rintro ⟨back, front, turned, last⟩
    refine ⟨front.reverse, back.reverse, ?_, fun piece member => ?_⟩
    · rw [← List.reverse_reverse pieces, turned]
      simp
    · exact last piece (List.mem_reverse.mp member)
  · rintro ⟨front, back, rfl, last⟩
    refine ⟨back.reverse, front.reverse, by simp, fun piece member => ?_⟩
    exact last piece (List.mem_reverse.mp member)

theorem find?_reverse_eq_none_iff {pieces : List String} :
    pieces.reverse.find? (· ≠ "") = none ↔ ∀ piece ∈ pieces, piece = "" := by
  simp

/-- Every URL has one name that it should be called by. -/
theorem exists_called (url : Url) : ∃ name, ∀ other, url.Called other ↔ other = name := by
  cases found : url.path.pieces.reverse.find? (· ≠ "") with
  | some name =>
      obtain ⟨nonempty, front, back, split, last⟩ := find?_reverse_eq_some_iff.mp found
      have member : name ∈ url.path.pieces := by simp [split]
      have called : url.Called name := .segment split nonempty last
      refine ⟨name, fun other => ⟨fun called => ?_, fun same => same ▸ called⟩⟩
      cases called with
      | segment split' nonempty' last' =>
          have found' := find?_reverse_eq_some_iff.mpr ⟨nonempty', _, _, split', last'⟩
          exact Option.some.inj (found'.symm.trans found)
      | host noSegment => exact absurd (noSegment name member) nonempty
      | nothing noSegment => exact absurd (noSegment name member) nonempty
  | none =>
      have noSegment := find?_reverse_eq_none_iff.mp found
      cases is : url.host with
      | some host =>
          refine ⟨host.text, fun other => ⟨fun called => ?_, fun same => same ▸ .host noSegment is⟩⟩
          cases called with
          | segment split nonempty =>
              exact absurd (noSegment other (by simp [split])) nonempty
          | host _ is' =>
              cases is'.symm.trans is
              rfl
          | nothing _ noHost => cases noHost.symm.trans is
      | none =>
          refine ⟨_, fun other => ⟨fun called => ?_, fun same => same ▸ .nothing noSegment is⟩⟩
          cases called with
          | segment split nonempty =>
              exact absurd (noSegment other (by simp [split])) nonempty
          | host _ is' => cases is'.symm.trans is
          | nothing => rfl

theorem Called.nonempty {url : Url} {name : String} (called : url.Called name)
    (named : ∀ host ∈ url.host, host.IsNamed) : name ≠ "" := by
  cases called with
  | segment _ nonempty => exact nonempty
  | host _ is => exact named _ is
  | nothing => decide

/-- Nothing but a path without a character keeps a URL from being called by its name. -/
theorem called_nameOf {url : Url} (notBlank : url.path ≠ .bare "") :
    url.Called (Iri.nameOf url) := by
  cases path : url.path with
  | bare text =>
      rw [Iri.nameOf_of_bare path]
      have split : url.path.pieces = [] ++ text :: [] := by rw [path]; rfl
      refine .segment split ?_ nofun
      rintro rfl
      exact notBlank path
  | rooted segments =>
      have pieces : url.path.pieces = segments := by rw [path]; rfl
      unfold Iri.nameOf
      rw [path, Path.segments]
      split
      · next name found =>
          obtain ⟨nonempty, front, back, split, last⟩ := find?_reverse_eq_some_iff.mp found
          exact .segment (pieces.trans split) nonempty last
      · next none =>
          have noSegment : ∀ piece ∈ url.path.pieces, piece = "" := by
            rw [pieces]
            exact find?_reverse_eq_none_iff.mp none
          cases is : url.host with
          | some host => exact .host noSegment is
          | none => exact .nothing noSegment is

/-! ## Blank paths -/

theorem Parts.front_eq_nil_iff {text : List Char} :
    (Parts.ofText text).front = [] ↔ ∀ c ∈ text.head?, c = '?' ∨ c = '#' := by
  cases text with
  | nil => simp [Parts.ofText, cutAt]
  | cons c text =>
      by_cases hash : c = '#'
      · simp [Parts.ofText, cutAt, hash]
      · by_cases question : c = '?'
        · simp [Parts.ofText, cutAt, question]
        · simp [Parts.ofText, cutAt, hash, question]

theorem Made.of_blank {scheme : String} {parts : Parts} {url : Url} (made : Made scheme parts url)
    (blank : url.path = .bare "") : kindOf scheme = .plain ∧ parts.front = [] := by
  cases made with
  | served => cases blank
  | rooted => cases blank
  | bare plain =>
      have vanishes : String.ofList (Percent.encode Percent.inControls parts.front) = "" :=
        Path.bare.inj blank
      rw [String.ofList_eq_empty_iff, Percent.encode_eq_nil_iff] at vanishes
      exact ⟨plain, vanishes⟩

theorem path_of_front_eq_nil {scheme : String} {text : List Char} {url : Url}
    (read : parseAfterScheme scheme text = .ok url) (noFile : scheme ≠ "file")
    (nothing : (Parts.ofText text).front = []) : url.path = .bare "" := by
  cases kind : kindOf scheme with
  | special => exact absurd read (parseAfterScheme_ne_ok_of_special kind nothing)
  | file => exact absurd (eq_file_of_kindOf kind) noFile
  | plain =>
      simp only [parseAfterScheme, kind, parsePlain, nothing] at read
      cases read
      rfl

end Url

namespace Iri

/-- Nothing stands behind the scheme but a query or a fragment, and the scheme is not that
of files, to which the root belongs. -/
def IsBlank (iri : Iri) : Prop :=
  ∃ rest, iri.text.toList = iri.scheme.toList ++ ':' :: rest ∧
    (∀ c ∈ rest.head?, c = '?' ∨ c = '#') ∧ iri.scheme.toLower ≠ "file"

theorem path_eq_bare_iff (iri : Iri) : iri.url.path = .bare "" ↔ iri.IsBlank := by
  obtain ⟨rest, whole, -, read⟩ := iri.exists_scheme
  constructor
  · intro blank
    obtain ⟨plain, nothing⟩ := (Url.made_of_parseAfterScheme read).of_blank blank
    refine ⟨rest, whole, Url.Parts.front_eq_nil_iff.mp nothing, ?_⟩
    rintro isFile
    rw [isFile] at plain
    exact absurd plain (by decide)
  · rintro ⟨rest', whole', begins, noFile⟩
    obtain rfl : rest = rest' := by simpa using whole.symm.trans whole'
    exact Url.path_of_front_eq_nil read noFile (Url.Parts.front_eq_nil_iff.mpr begins)

/-- What is known of the name that an IRI is given. -/
structure Naming (iri : Iri) (given : String) : Prop where
  /-- There is one name that the IRI should have. It is not empty, and it is the one that is
  given unless the IRI is blank. -/
  proper : ∃ name, (∀ other, iri.url.Called other ↔ other = name) ∧ name ≠ "" ∧
    (given = name ↔ ¬iri.IsBlank)
  /-- The name of blank IRIs is empty, and no other. -/
  blank : given = "" ↔ iri.IsBlank

theorem naming_localName (iri : Iri) : Naming iri iri.localName := by
  obtain ⟨rest, -, -, read⟩ := iri.exists_scheme
  obtain ⟨name, only⟩ := iri.url.exists_called
  have nonempty : name ≠ "" :=
    ((only name).mpr rfl).nonempty (Url.made_of_parseAfterScheme read).isNamed
  by_cases blank : iri.url.path = .bare ""
  · have isEmpty : iri.localName = "" := nameOf_of_bare blank
    have isBlank := iri.path_eq_bare_iff.mp blank
    refine ⟨⟨name, only, nonempty, ?_⟩, iff_of_true isEmpty isBlank⟩
    exact iff_of_false (fun same => nonempty (same.symm.trans isEmpty)) (not_not_intro isBlank)
  · have called : iri.localName = name := (only _).mp (Url.called_nameOf blank)
    have notBlank := mt iri.path_eq_bare_iff.mpr blank
    refine ⟨⟨name, only, nonempty, iff_of_true called notBlank⟩, ?_⟩
    exact iff_of_false (called ▸ nonempty) notBlank

/-- Every IRI, and so every stream, is called by its name exactly if it is not blank. -/
theorem naming_of_localName (iri : Iri) (config : Config) :
    Naming iri iri.localName ∧ Naming config.stream config.streamName :=
  ⟨naming_localName iri, naming_localName config.stream⟩

/-- A scheme with nothing behind it: the name is empty, where the word for what has no name
should stand. -/
theorem not_called_of_urn :
    ∃ iri, Iri.parse "urn:" = .ok iri ∧ iri.localName = "" ∧ iri.url.Called "unnamed" ∧
      ¬iri.url.Called iri.localName := by
  have faultless : fault? "urn:" = none := by decide +kernel
  have scheme : Url.splitScheme "urn:".toList = some ("urn", []) := rfl
  have kind : Url.kindOf "urn" = .plain := by decide
  have read : Url.parse "urn:".toList =
      .ok (Url.complete "urn" none (.bare "") ⟨[], none, none⟩) := by
    simp only [Url.parse, scheme, Url.parseAfterScheme, kind]
    rfl
  have url : (⟨"urn:", faultless⟩ : Iri).url = _ := url_eq_of_parse read
  have isEmpty : (⟨"urn:", faultless⟩ : Iri).localName = "" := by
    rw [localName, url]
    exact nameOf_of_bare rfl
  refine ⟨⟨"urn:", faultless⟩, parse_of_faultless faultless, isEmpty, ?_, ?_⟩
  · rw [url]
    refine .nothing (fun piece member => ?_) rfl
    exact List.mem_singleton.mp member
  · rw [isEmpty, url]
    intro called
    refine called.nonempty ?_ rfl
    rintro host ⟨⟩

end Iri

end ContextStream
