import ContextStream.Proofs.Iri.Division
import ContextStream.Proofs.Url.Domain
import ContextStream.Proofs.Url.Ipv6

/-!
# Authorities that can be read

Reading a URL normalizes much, but it checks the host and the port behind the user
information: a host is an address in brackets or a text without the signs that divide an
authority, and a port is made of digits.
-/

namespace ContextStream.Url

open ContextStream.Text ContextStream.Iri.Grammar

/-! ## Hosts -/

/-- The signs that divide an authority. -/
def authoritySigns : List Char :=
  [':', '@', '[', ']']

/-- Texts that may stand for a host. -/
def NamesHost (text : List Char) : Prop :=
  (∃ address ∈ ipv6Address, text = '[' :: address ++ [']']) ∨ ∀ c ∈ authoritySigns, c ∉ text

theorem namesHost_nil : NamesHost [] :=
  Or.inr fun _ _ => nofun

theorem namesHost_of_parseBracketed {inner : List Char} {host : Host}
    (read : Host.parseBracketed inner = .ok host) : NamesHost ('[' :: inner) := by
  unfold Host.parseBracketed at read
  split at read
  · next closes =>
      have whole : inner.dropLast ++ [']'] = inner := List.dropLast_append_getLast? _ closes
      obtain ⟨pieces, parsed, -⟩ := map_eq_ok_iff.mp read
      exact Or.inl ⟨_, Ipv6.mem_ipv6Address_of_parse parsed, by rw [List.cons_append, whole]⟩
  · cases read

theorem namesHost_of_parseDomain {text : List Char} {host : Host}
    (read : Host.parseDomain text = .ok host) : NamesHost text := by
  have all : ∀ c ∈ authoritySigns, Domain.isForbidden c = true ∧ (c ≠ '<' ∧ c ≠ '>') ∧
      c ≠ '%' ∧ Hex.value? c = none :=
    forall_mem_of_all (by decide)
  refine Or.inr fun c isDivider member => ?_
  obtain ⟨forbidden, noSign, noPercent, noDigit⟩ := all c isDivider
  have firm := Domain.firm_of_isForbidden forbidden noSign
  have inName := Percent.mem_decodeLossy_decode firm.steady.ascii noPercent noDigit member
  obtain ⟨ascii, isAscii, -⟩ := bind_eq_ok_iff.mp read
  exact firm.toAscii_ne_ok inName isAscii

theorem namesHost_of_parseSpecial {text : List Char} {host : Host}
    (read : Host.parseSpecial text = .ok host) : NamesHost text := by
  unfold Host.parseSpecial at read
  split at read
  · exact namesHost_of_parseBracketed read
  · exact namesHost_of_parseDomain read

theorem namesHost_of_parseVerbatim {text : List Char} {host : Host}
    (read : Host.parseVerbatim text = .ok host) : NamesHost text := by
  unfold Host.parseVerbatim at read
  split at read
  · exact namesHost_of_parseBracketed read
  · split at read
    · cases read
    · next admitted =>
        have all : ∀ c ∈ authoritySigns, Host.isForbidden c = true :=
          forall_mem_of_all (by decide)
        exact Or.inr fun c isDivider member =>
          admitted (List.any_eq_true.mpr ⟨c, member, all c isDivider⟩)

theorem namesHost_of_parseHost {kind : Kind} {text : List Char} {host : Option Host}
    (read : parseHost kind text = .ok host) : NamesHost text := by
  by_cases isEmpty : text.isEmpty = true
  · exact List.isEmpty_iff.mp isEmpty ▸ namesHost_nil
  · unfold parseHost at read
    split at read
    · rw [if_neg isEmpty] at read
      obtain ⟨verbatim, parsed, -⟩ := map_eq_ok_iff.mp read
      exact namesHost_of_parseVerbatim parsed
    · rw [if_neg isEmpty] at read
      obtain ⟨special, parsed, -⟩ := map_eq_ok_iff.mp read
      exact namesHost_of_parseSpecial parsed

theorem namesHost_of_parseFileHost {text : List Char} {host : Option Host}
    (read : parseFileHost text = .ok host) : NamesHost text := by
  unfold parseFileHost at read
  split at read
  · next isEmpty => exact List.isEmpty_iff.mp isEmpty ▸ namesHost_nil
  · obtain ⟨special, parsed, -⟩ := bind_eq_ok_iff.mp read
    exact namesHost_of_parseSpecial parsed

theorem NamesHost.not_mem {text : List Char} (names : NamesHost text) : '@' ∉ text := by
  rcases names with ⟨address, isAddress, rfl⟩ | apart
  · have absent : '@' ∉ address :=
      not_mem_of_holds (within_ipv6Address address isAddress) (by decide) (by decide)
    simp [absent]
  · exact apart '@' (by decide)

/-! ## Authorities -/

/-- Behind the user information stand a host and, if there is one, a port. -/
def Served (text : List Char) : Prop :=
  ∃ host tail, (splitUser text).2 = host ++ tail ∧ NamesHost host ∧
    (tail = [] ∨ ∃ digits, tail = ':' :: digits ∧ ∀ c ∈ digits, c.isDigit = true)

theorem served_nil : Served [] :=
  ⟨[], [], rfl, namesHost_nil, Or.inl rfl⟩

theorem splitUser_eq {text : List Char} (absent : '@' ∉ text) : splitUser text = (none, text) := by
  rw [splitUser, splitLast?_eq_none absent]

theorem splitUser_append {info rest : List Char} (absent : '@' ∉ rest) :
    splitUser (info ++ '@' :: rest) = (some info, rest) := by
  rw [splitUser, splitLast?_append absent]

theorem splitUser_cases (text : List Char) :
    (splitUser text = (none, text)) ∨
      ∃ info rest, text = info ++ '@' :: rest ∧ splitUser text = (some info, rest) := by
  by_cases member : '@' ∈ text
  · obtain ⟨rest, info, turned, absent⟩ := List.eq_append_cons_of_mem (List.mem_reverse.mpr member)
    have whole : text = info.reverse ++ '@' :: rest.reverse := by
      rw [← List.reverse_reverse text, turned]
      simp
    refine Or.inr ⟨info.reverse, rest.reverse, whole, ?_⟩
    rw [whole, splitUser_append (by simpa using absent)]
  · exact Or.inl (splitUser_eq member)

theorem served_of_namesHost {text : List Char} (names : NamesHost text) : Served text :=
  ⟨text, [], by rw [splitUser_eq names.not_mem, List.append_nil], names, Or.inl rfl⟩

theorem splitHost_append (inside : Bool) (text : List Char) :
    (splitHost inside text).1 ++ ((splitHost inside text).2.map (':' :: ·)).getD [] = text := by
  fun_induction splitHost inside text with
  | case1 => rfl
  | case2 inside c rest ends => rw [ends.1]; rfl
  | case3 inside c rest goesOn host port split ih =>
      rw [split] at ih
      exact congrArg (c :: ·) ih

theorem isDigit_of_parsePort {scheme : String} {digits : List Char} {port : Option Nat}
    (read : parsePort scheme digits = .ok port) : ∀ c ∈ digits, c.isDigit = true := by
  unfold parsePort at read
  split at read
  · next all => exact List.all_eq_true.mp all
  · cases read

theorem served_of_parseAuthority {scheme : String} {bounded : Bool} {text : List Char}
    {authority : Authority} (read : parseAuthority scheme bounded text = .ok authority) :
    Served text := by
  rcases user : splitUser text with ⟨userinfo, rest⟩
  rcases split : splitHost false rest with ⟨host, port⟩
  have whole := splitHost_append false rest
  rw [split] at whole
  unfold parseAuthority at read
  simp only [user, split] at read
  split at read
  · cases read
  · obtain ⟨parsedHost, parsed, read⟩ := bind_eq_ok_iff.mp read
    refine ⟨host, (port.map (':' :: ·)).getD [], by rw [user, ← whole],
      namesHost_of_parseHost parsed, ?_⟩
    split at read
    · cases read
    · cases port with
      | none => exact Or.inl rfl
      | some digits =>
          obtain ⟨number, isPort, -⟩ := bind_eq_ok_iff.mp read
          exact Or.inr ⟨digits, rfl, isDigit_of_parsePort isPort⟩

/-! ## The three kinds of URLs -/

theorem isSlash_eq {kind : Kind} {c : Char} (other : c ≠ '\\') : isSlash kind c = (c == '/') := by
  simp [isSlash, other]

/-- Signs that no text with the parts of an authority in place holds in front of its
query. -/
def Bare (text : List Char) : Prop :=
  ∀ c ∈ text, c ≠ '\\' ∧ c ≠ '|' ∧ c ≠ '?' ∧ c ≠ '#'

theorem served_of_parseAfterSlashes {scheme : String} {parts : Parts} {text : List Char} {url : Url}
    (bare : Bare text) (read : parseAfterSlashes scheme parts text = .ok url) :
    Served (cutAt (· == '/') text).1 := by
  have same : cutAt (endsAuthority (kindOf scheme)) text = cutAt (· == '/') text := by
    apply cutAt_congr
    intro c member
    obtain ⟨noBackslash, -, noQuestion, noHash⟩ := bare c member
    rw [endsAuthority, isSlash_eq noBackslash, beq_eq_false_iff_ne.mpr noQuestion,
      beq_eq_false_iff_ne.mpr noHash, Bool.or_false, Bool.or_false]
  unfold parseAfterSlashes at read
  dsimp only at read
  rw [same] at read
  obtain ⟨authority, parsed, -⟩ := bind_eq_ok_iff.mp read
  exact served_of_parseAuthority parsed

theorem served_of_isDriveLetter {text : List Char} (bare : Bare text)
    (drive : Segment.isDriveLetter text = true) : Served text := by
  unfold Segment.isDriveLetter at drive
  split at drive
  · next letter mark =>
      obtain ⟨isLetter, isMark⟩ := Bool.and_eq_true_iff.mp drive
      obtain ⟨-, noBar, -⟩ := bare mark (by simp)
      obtain rfl : mark = ':' := by simpa [noBar] using isMark
      have apart : ∀ c ∈ authoritySigns, c ≠ letter := by
        have all : ∀ c ∈ authoritySigns, c.isAlpha = false := forall_mem_of_all (by decide)
        rintro c isDivider rfl
        rw [all c isDivider] at isLetter
        cases isLetter
      -- The grammar takes the letter for a host and the colon for an empty port.
      have absent : '@' ∉ [letter, ':'] := by simp [apart '@' (by decide)]
      refine ⟨[letter], [':'], by rw [splitUser_eq absent]; rfl, Or.inr ?_,
        Or.inr ⟨[], rfl, nofun⟩⟩
      exact fun c isDivider member => apart c isDivider (List.mem_singleton.mp member)
  · cases drive

theorem served_of_parseFile {parts : Parts} {rest : List Char} {url : Url}
    (announced : parts.front = '/' :: '/' :: rest) (bare : Bare rest)
    (read : parseFile parts = .ok url) : Served (cutAt (· == '/') rest).1 := by
  have same : cutAt (isSlash .file) rest = cutAt (· == '/') rest :=
    cutAt_congr fun c member => isSlash_eq (bare c member).1
  have bareHost : Bare (cutAt (· == '/') rest).1 := fun c member =>
    bare c (cutAt_append (· == '/') rest ▸ List.mem_append_left _ member)
  unfold parseFile at read
  rw [announced] at read
  have slash : isSlash .file '/' = true := rfl
  simp only [slash, and_self, if_true, same] at read
  split at read
  · next drive => exact served_of_isDriveLetter bareHost drive
  · obtain ⟨host, parsed, -⟩ := bind_eq_ok_iff.mp read
    exact served_of_namesHost (namesHost_of_parseFileHost parsed)

/-- The authority of a URL that is read has a host and a port. -/
theorem served_of_parseAfterScheme {scheme : String} {text rest : List Char} {url : Url}
    (announced : (Parts.ofText text).front = '/' :: '/' :: rest)
    (legal : ∀ c ∈ text, c ≠ '\\' ∧ c ≠ '|') (read : parseAfterScheme scheme text = .ok url) :
    Served (cutAt (· == '/') rest).1 := by
  have bare : Bare rest := by
    intro c member
    have inFront : c ∈ (Parts.ofText text).front := by
      rw [announced]
      simp [member]
    obtain ⟨inText, noQuestion, noHash⟩ := Parts.mem_front inFront
    exact ⟨(legal c inText).1, (legal c inText).2, noQuestion, noHash⟩
  unfold parseAfterScheme at read
  dsimp only at read
  split at read
  · rw [announced] at read
    cases rest with
    | nil => exact served_nil
    | cons c rest =>
        by_cases isSlash : c = '/'
        · -- A third slash leaves the authority empty, whatever is taken for one behind it.
          subst isSlash
          exact served_nil
        · have slash : Url.isSlash .special '/' = true := rfl
          have noSlash : Url.isSlash .special c = false := by
            rw [isSlash_eq (bare c List.mem_cons_self).1, beq_eq_false_iff_ne.mpr isSlash]
          have stripped :
              ('/' :: '/' :: c :: rest).dropWhile (Url.isSlash .special) = c :: rest := by
            simp only [List.dropWhile_cons, slash, noSlash, if_true, Bool.false_eq_true, if_false]
          rw [stripped] at read
          exact served_of_parseAfterSlashes bare read
  · exact served_of_parseFile announced bare read
  · unfold parsePlain at read
    rw [announced] at read
    exact served_of_parseAfterSlashes bare read

end ContextStream.Url
