import ContextStream.Proofs.Uuid

/-!
# The names of identifiers

Every identifier has a name, which tells all its bits. To a URL the written form is a bare
path, in which nothing is encoded.
-/

namespace ContextStream

open ContextStream.Text

namespace Iri

/-- An IRI has the URL that is read from its text. -/
theorem url_eq_of_parse {iri : Iri} {url : Url} (read : Url.parse iri.text.toList = .ok url) :
    iri.url = url := by
  unfold Iri.url
  split
  · next found => exact Except.ok.inj (found.symm.trans read)
  · next refused => cases refused.symm.trans read

/-- A URL with a bare path has this path as its name. -/
theorem nameOf_of_bare {url : Url} {path : String} (bare : url.path = .bare path) :
    nameOf url = path := by
  simp [nameOf, bare, Url.Path.segments]

/-- What is known of the name of an identifier. -/
structure Names (iri : Iri) (id : Uuid) : Prop where
  /-- It is what the text of the identifier is read as. -/
  parse : Iri.parse ("urn:uuid:" ++ String.ofList id.text) = .ok iri
  text : iri.text = "urn:uuid:" ++ String.ofList id.text
  /-- The text has thirty-six characters, -/
  length : id.text.length = 36
  /-- in five groups with hyphens between them, -/
  groups : (id.text.splitOn '-').map List.length = [8, 4, 4, 4, 12]
  /-- which hold digits in lower case, -/
  lower : ∀ group ∈ id.text.splitOn '-', ∀ c ∈ group, c ∈ Hex.lowerDigits
  /-- and all bits are read back from it. -/
  readBack : Uuid.read? id.text = some id
  scheme : iri.scheme = "urn"
  localName : iri.localName = "uuid:" ++ String.ofList id.text

theorem text_ofUuid (id : Uuid) :
    (ofUuid id).text = "urn:uuid:" ++ String.ofList id.text := by
  have space : "urn:uuid:" = String.ofList uuidNamespace := rfl
  rw [space, ← String.ofList_append]
  rfl

theorem localName_ofUuid (id : Uuid) :
    (ofUuid id).localName = "uuid:" ++ String.ofList id.text := by
  have chars : (ofUuid id).text.toList = uuidNamespace ++ id.text := String.toList_ofList
  have read := parse_uuid id.text id.text_subset_alphabet
  rw [← chars] at read
  rw [localName, url_eq_of_parse read]
  have kind : "uuid:" = String.ofList ['u', 'u', 'i', 'd', ':'] := rfl
  rw [nameOf_of_bare rfl, kind, ← String.ofList_append]
  simp only [List.cons_append, List.nil_append]

/-- Every identifier has a name. -/
theorem names_ofUuid (id : Uuid) : Names (ofUuid id) id where
  parse := by
    rw [← text_ofUuid]
    exact parse_of_faultless (ofUuid id).faultless
  text := text_ofUuid id
  length := id.length_text
  groups := id.splitOn_text.1
  lower := by
    intro group groupMem c cMem
    have inDigits : c ∈ id.digits := id.splitOn_text.2 ▸ List.mem_flatten_of_mem groupMem cMem
    exact Hex.mem_lowerDigits_of_mem_fixed inDigits
  readBack := id.read?_text
  scheme := by
    have chars : (ofUuid id).text.toList = uuidNamespace ++ id.text := String.toList_ofList
    rw [scheme, chars]
    rfl
  localName := localName_ofUuid id

end Iri

end ContextStream
