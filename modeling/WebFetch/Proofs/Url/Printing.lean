/-
This file proves that a URL that was read is printed so that the same URL is read again. The marks
between the printed parts are the first ones that are looked for, since they do not stand in what is
printed before them, and what is read is in canonical form, so that nothing changes again.
-/

import WebFetch.Proofs.Url.Canonical

namespace WebFetch.Url

/-! ### The host and the port -/

/-- The digits that are written for a port. -/
def portDigits (url : Url) : Option (List Char) :=
  url.port.map fun port => Nat.toDigits 10 port.toNat

theorem toList_authority (url : Url) :
    url.authority.toList = url.bracketedHost.toList ++ marked ':' url.portDigits := by
  unfold authority portDigits
  cases url.port with
  | none => exact (List.append_nil _).symm
  | some port =>
    simp only [String.toList_append, Nat.toList_repr, List.append_assoc]
    rfl

theorem toList_bracketedHost (url : Url) :
    url.bracketedHost.toList =
      if url.host.toList.contains ':' then '[' :: (url.host.toList ++ [']'])
      else url.host.toList := by
  unfold bracketedHost
  split
  · simp
  · rfl

theorem splitHost_of_brackets {literal : List Char} (absent : ']' ∉ literal)
    (digits : Option (List Char)) :
    splitHost ('[' :: (literal ++ ']' :: marked ':' digits)) = .ok (literal, digits) := by
  rw [splitHost, cut_singleton absent]
  cases digits <;> rfl

theorem splitHost_of_name {host : List Char} {digits : Option (List Char)} (some : host ≠ [])
    (unbracketed : '[' ∉ host) (noColon : ':' ∉ host)
    (noColonInDigits : ∀ text, digits = Option.some text → ':' ∉ text) :
    splitHost (host ++ marked ':' digits) = .ok (host, digits) := by
  obtain ⟨first, rest, rfl⟩ := List.exists_cons_of_ne_nil some
  have other : first ≠ '[' := fun same => unbracketed (same ▸ List.mem_cons_self)
  rw [splitHost]
  · cases digits with
    | none =>
      rw [marked, List.append_nil, cutLast_of_not_mem noColon]
    | some text =>
      rw [marked, cutLast_singleton (noColonInDigits text rfl)]
  · intro bracketed same
    exact other (List.cons.inj same).1

theorem parsePort_portDigits {url : Url}
    (other : ∀ port, url.port = some port → defaultPort? url.scheme ≠ some port) :
    parsePort url.scheme url.portDigits = .ok url.port := by
  unfold portDigits
  cases isPort : url.port with
  | none => rfl
  | some port =>
    have digits : (Nat.toDigits 10 port.toNat).all Char.isDigit = true :=
      List.all_eq_true.mpr fun _ => Nat.isDigit_of_mem_toDigits (by decide) (by decide)
    have nonempty : (Nat.toDigits 10 port.toNat).isEmpty = false :=
      List.isEmpty_eq_false_iff.mpr Nat.toDigits_ne_nil
    have number : Numeral.parse 10 wordLimit16 (Nat.toDigits 10 port.toNat) = .ok port.toNat :=
      Numeral.parse_toDigits .ten port.toNat_lt
    simp only [Option.map_some, parsePort, digits, nonempty, number, UInt16.ofNat_toNat]
    simp [other port isPort]

/-- The host and the digits of the port are found in the printed authority. -/
theorem splitHost_authority {url : Url} (printable : url.Printable) :
    splitHost url.authority.toList = .ok (url.host.toList, url.portDigits) ∧
      (url.authority.toList.head? == some '[') = url.host.toList.contains ':' := by
  have inHost := forall_mem_of_parseHost printable.host
  have notInHost {character : Char} (other : isHostCharacter character = false) :
      character ∉ url.host.toList := by
    intro member
    rw [inHost character member] at other
    cases other
  rw [toList_authority, toList_bracketedHost]
  by_cases colon : url.host.toList.contains ':' = true
  · rw [if_pos colon, colon, List.cons_append, List.append_assoc]
    exact ⟨splitHost_of_brackets (notInHost (by decide)) _, rfl⟩
  · have valid := (parseHost_eq_ok_iff.mp printable.host).2
    rw [if_neg colon] at valid
    have some : url.host.toList ≠ [] := by
      intro nothing
      rw [nothing] at valid
      cases valid
    have unbracketed : '[' ∉ url.host.toList := notInHost (by decide)
    have noColonInDigits : ∀ text, url.portDigits = Option.some text → ':' ∉ text := by
      intro text isText
      obtain ⟨port, _, rfl⟩ := Option.map_eq_some_iff.mp isText
      exact Numeral.not_mem_toDigits .ten (by decide) _
    rw [if_neg colon, Bool.eq_false_iff.mpr colon]
    refine ⟨splitHost_of_name some unbracketed
      (fun member => colon (List.contains_iff_mem.mpr member)) noColonInDigits, ?_⟩
    obtain ⟨first, rest, same⟩ := List.exists_cons_of_ne_nil some
    rw [same] at unbracketed ⊢
    refine beq_eq_false_iff_ne.mpr fun bracket => unbracketed ?_
    rw [← Option.some.inj bracket]
    exact List.mem_cons_self

/-! ### The target -/

theorem splitTarget_target {url : Url} (printable : url.Printable) :
    splitTarget url.target.toList = (url.path.toList, url.query.map String.toList) := by
  obtain ⟨noQuestion, noHash⟩ := printable.unmarked
  have noHashInTarget : '#' ∉ url.target.toList := by
    rw [toList_target]
    intro member
    rcases List.mem_append.mp member with inPath | inQuery
    · exact noHash inPath
    · cases isQuery : url.query with
      | none =>
        rw [isQuery] at inQuery
        cases inQuery
      | some query =>
        rw [isQuery] at inQuery
        exact printable.query query isQuery (List.mem_of_ne_of_mem (by decide) inQuery)
  rw [splitTarget, cutOptional_of_not_mem noHashInTarget, toList_target,
    cutOptional_marked noQuestion]

theorem head?_target {url : Url} (canonical : url.Canonical) :
    url.target.toList.head? = some '/' := by
  obtain ⟨rest, path⟩ := List.head?_eq_some_iff.mp (Path.head?_of_isNormal canonical.path)
  rw [toList_target, path]
  rfl

/-! ### The whole -/

theorem readsAs_of_printable {url : Url} (printable : url.Printable) :
    ReadsAs url.scheme url.authority.toList url.target.toList url := by
  obtain ⟨hostSplit, bracketed⟩ := splitHost_authority printable
  refine ⟨_, _, url.host.toList, url.port, hostSplit, ?_, parsePort_portDigits printable.port, ?_⟩
  · rw [bracketed]
    exact printable.host
  · rw [splitTarget_target printable, Path.normalize_of_isNormal printable.path, String.ofList_toList,
      String.ofList_toList, Option.map_map]
    have query : url.query.map (String.ofList ∘ String.toList) = url.query := by
      cases url.query with
      | none => rfl
      | some query => exact congrArg some String.ofList_toList
    rw [query]

theorem separated_of_printable {url : Url} (printable : url.Printable) :
    Separated url.authority.toList url.target.toList where
  unended := by
    intro character member
    have proper := forall_mem_authority_of_host (forall_mem_of_parseHost printable.host) character
      member
    refine Bool.eq_false_iff.mpr fun ends => ?_
    simp only [endsAuthority, Bool.or_eq_true, beq_iff_eq] at ends
    rcases ends with (rfl | rfl) | rfl
    · exact absurd proper (by decide)
    · exact absurd proper (by decide)
    · exact absurd proper (by decide)
  ends := by
    intro first begins
    rw [head?_target printable.toCanonical] at begins
    cases begins
    decide

/-- A scheme in lower case is read as it is. -/
theorem parseScheme_of_isLowerScheme {scheme : List Char} (isScheme : IsLowerScheme scheme)
    (rest : List Char) : parseScheme (scheme ++ ':' :: rest) = .ok (scheme, rest) := by
  have proper := isScheme.forall_mem
  have noColon : ':' ∉ scheme := fun member => absurd (proper ':' member) (by decide)
  have lower : scheme.map Char.toLower = scheme := by
    refine Eq.trans (List.map_congr_left fun character member => ?_) (List.map_id scheme)
    exact (toLower_of_isLowerSchemeCharacter (proper character member)).2
  obtain ⟨first, others, rfl, isLower, _⟩ := isScheme
  have isAlpha : first.isAlpha = true := by
    rw [Char.isAlpha, isLower, Bool.or_true]
  have others : others.all isSchemeCharacter = true := by
    refine List.all_eq_true.mpr fun character member => ?_
    exact (toLower_of_isLowerSchemeCharacter (proper _ (List.mem_cons_of_mem _ member))).1
  rw [parseScheme, cut_singleton noColon]
  dsimp only
  rw [if_neg (not_not.mpr isAlpha), if_neg (not_not.mpr others), lower]

theorem isBlank_of_isLower {character : Char} (lower : character.isLower = true) :
    isBlank character = false := by
  have within : 97 ≤ character.toNat ∧ character.toNat ≤ 122 := by
    simpa [Char.isLower, UInt32.le_iff_toNat_le] using lower
  have apart : ∀ range ∈ blankRanges, range.2 < 97 ∨ 122 < range.1 := by decide
  refine List.any_eq_false.mpr fun range member => ?_
  have outside := apart range member
  rw [decide_eq_true_eq]
  omega

theorem toList_print (url : Url) :
    url.print.toList =
      url.scheme.toList ++ ':' :: '/' :: '/' :: (url.authority.toList ++ url.target.toList) := by
  simp [print]

/-- No blank stands at the ends of a printed URL. -/
theorem trim_print {url : Url} (printable : url.Printable) :
    trim url.print.toList = url.print.toList := by
  refine trim_of_unblank_ends ?_ ?_
  · intro first begins
    obtain ⟨letter, others, scheme, lower, _⟩ := printable.scheme
    rw [toList_print, scheme] at begins
    cases begins
    exact isBlank_of_isLower lower
  · intro last ends
    obtain ⟨rest, slash⟩ := List.head?_eq_some_iff.mp (head?_target printable.toCanonical)
    refine printable.ending last ?_
    rw [print, String.toList_append, List.getLast?_append] at ends
    rw [slash, List.getLast?_cons] at ends ⊢
    exact ends

theorem parse_print {url : Url} (printable : url.Printable) : parse url.print = .ok url := by
  rw [parse, trim_print printable, toList_print]
  refine parseTrimmed_eq_ok_iff.mpr
    ⟨_, _, _, parseScheme_of_isLowerScheme printable.scheme _, rfl, ?_⟩
  rw [String.ofList_toList]
  exact parseAuthority_eq_ok_iff.mpr ⟨_, _, rfl, separated_of_printable printable,
    readsAs_of_printable printable⟩

/-- A URL that was read from a text without a fragment is in canonical form, and it is read again
from what it is printed as. A blank before a fragment would stay at the end of the path. -/
theorem parse_print_of_parse {input : String} {url : Url} (accepted : parse input = .ok url)
    (noFragment : '#' ∉ input.toList) : parse url.print = .ok url ∧ url.Canonical := by
  have printable := printable_of_parse accepted noFragment
  exact ⟨parse_print printable, printable.toCanonical⟩

/-- A URL with an address, a port with a leading zero, dots in its path and blanks around it. -/
theorem parse_print_of_parse_dottedPath :
    let input := "\u3000HTTPS://[2001:DB8::192.168.0.1]:08443//a/./b/../c d//..?q=/?x\u00a0"
    let url : Url := ⟨"https", "2001:db8::192.168.0.1", some 8443, "/a/", some "q=/?x"⟩
    parse input = .ok url ∧ '#' ∉ input.toList ∧ parse url.print = .ok url ∧ url.Canonical := by
  intro input url
  have accepted : parse input = .ok url := by decide +kernel
  have noFragment : '#' ∉ input.toList := by decide +kernel
  exact ⟨accepted, noFragment, parse_print_of_parse accepted noFragment⟩

end WebFetch.Url
