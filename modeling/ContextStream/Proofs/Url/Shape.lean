import ContextStream.Url.Parser

/-!
# The shape of a URL that is read

Whatever stands behind a scheme, the URL that is read has this scheme and one of three
shapes: an authority and a path behind it, a path behind a slash, or a bare path. No host
is an empty text; a bare path is empty only where nothing stands in front of the query.
-/

namespace ContextStream

open ContextStream.Text

namespace Text.Percent

/-- What is encoded does not vanish. -/
theorem encode_eq_nil_iff {reserved : Char → Bool} {text : List Char} :
    encode reserved text = [] ↔ text = [] := by
  constructor
  · intro vanishes
    cases text with
    | nil => rfl
    | cons c text =>
        rw [encode, List.flatMap_cons, List.append_eq_nil_iff] at vanishes
        have first := vanishes.1
        split at first
        · obtain ⟨byte, bytes, units⟩ :=
            List.exists_cons_of_ne_nil (String.utf8EncodeChar_ne_nil (c := c))
          rw [units, List.flatMap_cons, escape] at first
          cases first
        · cases first
  · rintro rfl
    rfl

end Text.Percent

namespace Url

/-! ## Hosts -/

namespace Host

/-- The host stands in a URL as some text. -/
def IsNamed (host : Host) : Prop :=
  host.text ≠ ""

theorem isNamed_name {text : List Char} (nonempty : text ≠ []) :
    (name (String.ofList text)).IsNamed := by
  simpa [IsNamed, Host.text] using nonempty

theorem isNamed_ipv4 (address : Nat) : (ipv4 address).IsNamed := by
  simp [IsNamed, Host.text, Ipv4.text]

theorem isNamed_ipv6 (pieces : List Nat) : (ipv6 pieces).IsNamed := by
  simp [IsNamed, Host.text]

theorem isNamed_of_parseBracketed {inner : List Char} {host : Host}
    (read : parseBracketed inner = .ok host) : host.IsNamed := by
  unfold parseBracketed at read
  split at read
  · obtain ⟨pieces, -, rfl⟩ := map_eq_ok_iff.mp read
    exact isNamed_ipv6 pieces
  · cases read

theorem isNamed_of_parseDomain {text : List Char} {host : Host}
    (read : parseDomain text = .ok host) : host.IsNamed := by
  obtain ⟨domain, -, read⟩ := bind_eq_ok_iff.mp read
  dsimp only at read
  split at read
  · cases read
  · next nonempty =>
      split at read
      · obtain ⟨address, -, is⟩ := bind_eq_ok_iff.mp read
        cases is
        exact isNamed_ipv4 address
      · cases read
        exact isNamed_name (by simpa using nonempty)

theorem isNamed_of_parseSpecial {text : List Char} {host : Host}
    (read : parseSpecial text = .ok host) : host.IsNamed := by
  unfold parseSpecial at read
  split at read
  · exact isNamed_of_parseBracketed read
  · exact isNamed_of_parseDomain read

theorem isNamed_of_parseVerbatim {text : List Char} {host : Host} (nonempty : text ≠ [])
    (read : parseVerbatim text = .ok host) : host.IsNamed := by
  unfold parseVerbatim at read
  split at read
  · exact isNamed_of_parseBracketed read
  · split at read
    · cases read
    · cases read
      exact isNamed_name (mt Percent.encode_eq_nil_iff.mp nonempty)

end Host

theorem isNamed_of_parseHost {kind : Kind} {text : List Char} {host : Option Host}
    (read : parseHost kind text = .ok host) : ∀ h ∈ host, h.IsNamed := by
  unfold parseHost at read
  split at read
  · split at read
    · cases read
      nofun
    · next nonempty =>
        obtain ⟨verbatim, parsed, rfl⟩ := map_eq_ok_iff.mp read
        rintro _ ⟨⟩
        exact Host.isNamed_of_parseVerbatim (by simpa using nonempty) parsed
  · split at read
    · cases read
    · obtain ⟨special, parsed, rfl⟩ := map_eq_ok_iff.mp read
      rintro _ ⟨⟩
      exact Host.isNamed_of_parseSpecial parsed

theorem isNamed_of_parseFileHost {text : List Char} {host : Option Host}
    (read : parseFileHost text = .ok host) : ∀ h ∈ host, h.IsNamed := by
  unfold parseFileHost at read
  split at read
  · cases read
    nofun
  · obtain ⟨special, parsed, is⟩ := bind_eq_ok_iff.mp read
    cases is
    intro h member
    split at member
    · cases member
    · cases member
      exact Host.isNamed_of_parseSpecial parsed

theorem isNamed_of_parseAuthority {scheme : String} {bounded : Bool} {text : List Char}
    {authority : Authority} (read : parseAuthority scheme bounded text = .ok authority) :
    ∀ h ∈ authority.host, h.IsNamed := by
  unfold parseAuthority at read
  dsimp only at read
  split at read
  · cases read
  · obtain ⟨host, parsed, read⟩ := bind_eq_ok_iff.mp read
    have serves : authority.host = host := by
      split at read
      · cases read
      · split at read
        all_goals
          obtain ⟨port, -, read⟩ := bind_eq_ok_iff.mp read
          split at read
          · cases read
          · cases read
            rfl
    rw [serves]
    exact isNamed_of_parseHost parsed

/-! ## The three shapes -/

/-- How a URL is made of a scheme and the parts of a text. -/
inductive Made (scheme : String) (parts : Parts) : Url → Prop
  | served {authority : Authority} {segments : List String}
      (named : ∀ h ∈ authority.host, h.IsNamed) :
      Made scheme parts (complete scheme (some authority) (.rooted segments) parts)
  | rooted {segments : List String} :
      Made scheme parts (complete scheme none (.rooted segments) parts)
  | bare (plain : kindOf scheme = .plain) :
      Made scheme parts (complete scheme none
        (.bare (String.ofList (Percent.encode Percent.inControls parts.front))) parts)

theorem exists_pathAfterAuthority (kind : Kind) (text : List Char) :
    ∃ segments, pathAfterAuthority kind text = .rooted segments := by
  unfold pathAfterAuthority rootedPath
  split
  · split <;> exact ⟨_, rfl⟩
  · split <;> exact ⟨_, rfl⟩

theorem exists_filePath (text : List Char) : ∃ segments, filePath text = .rooted segments := by
  unfold filePath
  split <;> exact ⟨_, rfl⟩

theorem made_of_parseAfterSlashes {scheme : String} {parts : Parts} {text : List Char} {url : Url}
    (read : parseAfterSlashes scheme parts text = .ok url) : Made scheme parts url := by
  obtain ⟨authority, parsed, is⟩ := bind_eq_ok_iff.mp read
  cases is
  obtain ⟨segments, path⟩ := exists_pathAfterAuthority (kindOf scheme)
    (text.dropWhile fun c => !endsAuthority (kindOf scheme) c)
  rw [path]
  exact .served (isNamed_of_parseAuthority parsed)

/-- The URL of a file has the host that was read or none. -/
theorem made_of_file {parts : Parts} {host : Option Host} {text : List Char}
    (named : ∀ h ∈ host, h.IsNamed) :
    Made "file" parts (complete "file"
      (some { host := if namesDrive text then none else host }) (filePath text) parts) := by
  obtain ⟨segments, path⟩ := exists_filePath text
  rw [path]
  refine .served fun h member => ?_
  dsimp only at member
  split at member
  · cases member
  · exact named h member

theorem made_of_parseFile {parts : Parts} {url : Url} (read : parseFile parts = .ok url) :
    Made "file" parts url := by
  unfold parseFile at read
  dsimp only at read
  split at read
  · split at read
    · split at read
      · cases read
        exact made_of_file nofun
      · obtain ⟨host, parsed, is⟩ := bind_eq_ok_iff.mp read
        cases is
        exact made_of_file (isNamed_of_parseFileHost parsed)
    · cases read
      exact made_of_file nofun
  · cases read
    exact made_of_file nofun

theorem made_of_parsePlain {scheme : String} {parts : Parts} {url : Url}
    (plain : kindOf scheme = .plain) (read : parsePlain scheme parts = .ok url) :
    Made scheme parts url := by
  unfold parsePlain at read
  split at read
  · exact made_of_parseAfterSlashes read
  · cases read
    exact .rooted
  · cases read
    exact .bare plain

theorem eq_file_of_kindOf {scheme : String} (isFile : kindOf scheme = .file) : scheme = "file" := by
  unfold kindOf at isFile
  split at isFile
  · cases isFile
  · split at isFile
    · assumption
    · cases isFile

/-- Every URL that is read behind a scheme has one of the shapes. -/
theorem made_of_parseAfterScheme {scheme : String} {text : List Char} {url : Url}
    (read : parseAfterScheme scheme text = .ok url) : Made scheme (Parts.ofText text) url := by
  unfold parseAfterScheme at read
  dsimp only at read
  split at read
  · exact made_of_parseAfterSlashes read
  · next isFile =>
      rw [eq_file_of_kindOf isFile]
      exact made_of_parseFile read
  · next plain => exact made_of_parsePlain plain read

theorem Made.scheme {scheme : String} {parts : Parts} {url : Url} (made : Made scheme parts url) :
    url.scheme = scheme := by
  cases made <;> rfl

theorem Made.isNamed {scheme : String} {parts : Parts} {url : Url} (made : Made scheme parts url) :
    ∀ h ∈ url.host, h.IsNamed := by
  cases made with
  | served named => exact named
  | rooted => nofun
  | bare => nofun

/-- A URL of a network scheme cannot do without an authority. -/
theorem parseAfterScheme_ne_ok_of_special {scheme : String} {text : List Char} {url : Url}
    (special : kindOf scheme = .special) (nothing : (Parts.ofText text).front = []) :
    parseAfterScheme scheme text ≠ .ok url := by
  intro read
  simp only [parseAfterScheme, special, nothing, parseAfterSlashes, List.dropWhile_nil, cutAt,
    List.takeWhile_nil] at read
  obtain ⟨authority, parsed, -⟩ := bind_eq_ok_iff.mp read
  simp [parseAuthority, splitUser, splitLast?, cutAt, splitHost, parseHost, special, bind,
    Except.bind] at parsed

end Url

end ContextStream
