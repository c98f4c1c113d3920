/-
This file proves that a URL that was read is in canonical form: its scheme and host are in lower
case, its port is not the one that the scheme implies and its path is normal. Where the text has no
fragment, the printed target also ends as the text does, so that no blank stands at its end.
-/

import Mathlib
import WebFetch.Proofs.Url.Characters
import WebFetch.Proofs.Url.Path

namespace WebFetch.Url

/-! ### Canonical form -/

/-- Whether a character may stand in a scheme in lower case. -/
def isLowerSchemeCharacter (character : Char) : Bool :=
  character.isLower || character.isDigit || character == '+' || character == '-' ||
    character == '.'

/-- Whether a text is a scheme in lower case. -/
def IsLowerScheme (scheme : List Char) : Prop :=
  ∃ first others, scheme = first :: others ∧ first.isLower = true ∧
    others.all isLowerSchemeCharacter = true

/-- Whether the scheme, the port and the path of a URL are in canonical form. A normal path begins
with a slash. -/
structure Canonical (url : Url) : Prop where
  scheme : IsLowerScheme url.scheme.toList
  port : ∀ port, url.port = some port → defaultPort? url.scheme ≠ some port
  path : Path.IsNormal url.path.toList
  unmarked : '?' ∉ url.path.toList ∧ '#' ∉ url.path.toList

/-- Whether a URL is in canonical form and no part of it is taken for another one, or changed, when
it is printed and read. -/
structure Printable (url : Url) : Prop extends Canonical url where
  /-- The host is read as it is, in brackets if it has a colon. -/
  host : parseHost (url.host.toList.contains ':') url.host.toList = .ok url.host.toList
  query : ∀ query, url.query = some query → '#' ∉ query.toList
  ending : ∀ last, url.target.toList.getLast? = some last → isBlank last = false

/-! ### Scheme -/

theorem not_isUpper_of_isDigit {character : Char} (digit : character.isDigit = true) :
    ¬ character.isUpper = true := by
  simp [Char.isDigit, Char.isUpper, UInt32.le_iff_toNat_le] at digit ⊢
  omega

theorem isLowerSchemeCharacter_toLower {character : Char}
    (proper : isSchemeCharacter character = true) :
    isLowerSchemeCharacter character.toLower = true := by
  simp only [isSchemeCharacter, Char.isAlphanum, Bool.or_eq_true, beq_iff_eq] at proper
  simp only [isLowerSchemeCharacter, Char.isLower_toLower_eq_isAlpha, Bool.or_eq_true, beq_iff_eq]
  rcases proper with (((letter | digit) | rfl) | rfl) | rfl
  · simp only [letter, true_or]
  · rw [Char.toLower_eq_of_not_isUpper (not_isUpper_of_isDigit digit)]
    simp only [digit, true_or, or_true]
  · decide
  · decide
  · decide

/-- A character of a scheme in lower case may stand in a scheme, and it stays as it is. -/
theorem toLower_of_isLowerSchemeCharacter {character : Char}
    (proper : isLowerSchemeCharacter character = true) :
    isSchemeCharacter character = true ∧ character.toLower = character := by
  simp only [isLowerSchemeCharacter, Bool.or_eq_true, beq_iff_eq] at proper
  simp only [isSchemeCharacter, Char.isAlphanum, Char.isAlpha, Bool.or_eq_true, beq_iff_eq]
  rcases proper with (((lower | digit) | rfl) | rfl) | rfl
  · exact ⟨by simp only [lower, or_true, true_or],
      Char.toLower_eq_of_not_isUpper (Char.not_isUpper_of_isLower lower)⟩
  · exact ⟨by simp only [digit, or_true, true_or],
      Char.toLower_eq_of_not_isUpper (not_isUpper_of_isDigit digit)⟩
  · decide
  · decide
  · decide

theorem IsLowerScheme.forall_mem {scheme : List Char} (isScheme : IsLowerScheme scheme) :
    ∀ character ∈ scheme, isLowerSchemeCharacter character = true := by
  obtain ⟨first, others, rfl, lower, proper⟩ := isScheme
  refine List.forall_mem_cons.mpr ⟨?_, List.all_eq_true.mp proper⟩
  simp only [isLowerSchemeCharacter, lower, Bool.true_or]

theorem isLowerScheme_of_parseScheme {input scheme rest : List Char}
    (found : parseScheme input = .ok (scheme, rest)) : IsLowerScheme scheme := by
  unfold parseScheme at found
  split at found
  · cases found
  · split at found
    · cases found
    · rename_i first others _
      split at found
      · cases found
      · rename_i isAlpha
        split at found
        · cases found
        · rename_i proper
          cases found
          refine ⟨first.toLower, others.map Char.toLower, rfl, ?_, ?_⟩
          · rw [Char.isLower_toLower_eq_isAlpha]
            exact not_not.mp isAlpha
          · rw [List.all_map]
            exact List.all_eq_true.mpr fun character member => isLowerSchemeCharacter_toLower
              (List.all_eq_true.mp (not_not.mp proper) character member)

/-! ### Port -/

theorem not_default_of_parsePort {scheme : String} {text : Option (List Char)}
    {port : Option UInt16} (found : parsePort scheme text = .ok port) :
    ∀ number, port = some number → defaultPort? scheme ≠ some number := by
  unfold parsePort at found
  split at found
  · cases found
    exact nofun
  · split at found
    · cases found
    · split at found
      · cases found
      · dsimp only at found
        split at found
        · cases found
          exact nofun
        · rename_i other
          cases found
          intro number same
          rwa [← Option.some.inj same]

/-! ### Host -/

/-- A host that was read is read as it is, in brackets if it has a colon. -/
theorem parseHost_of_parseHost {bracketed : Bool} {text host : List Char}
    (found : parseHost bracketed text = .ok host) :
    parseHost (host.contains ':') host = .ok host := by
  obtain ⟨lower, valid⟩ := parseHost_eq_ok_iff.mp found
  have colon : host.contains ':' = bracketed := by
    cases bracketed with
    | true => exact List.contains_iff_mem.mpr (Address.colon_mem_of_parseV6? valid)
    | false =>
      refine Bool.eq_false_iff.mpr fun member => ?_
      have isLabel := isLabelCharacter_of_isHostName valid (List.contains_iff_mem.mp member)
        (by decide)
      exact absurd isLabel (by decide)
  rw [colon]
  refine parseHost_eq_ok_iff.mpr ⟨?_, valid⟩
  rw [lower, List.map_map]
  exact List.map_congr_left fun character _ => (Char.toLower_toLower_eq_toLower character).symm

/-! ### Target -/

theorem toList_target (url : Url) :
    url.target.toList = url.path.toList ++ marked '?' (url.query.map String.toList) := by
  unfold target
  cases url.query with
  | none => exact (List.append_nil _).symm
  | some query =>
    rw [String.toList_append, String.toList_append, List.append_assoc]
    rfl

/-- The target of a text without a fragment ends as the text does, or with a slash. -/
theorem getLast?_target {url : Url} {rest : List Char}
    (begins : ∀ first, rest.head? = some first → endsAuthority first = true)
    (noFragment : '#' ∉ rest)
    (path : url.path = String.ofList (Path.normalize (splitTarget rest).1))
    (query : url.query = (splitTarget rest).2.map String.ofList) :
    url.target.toList.getLast? = some '/' ∨ url.target.toList.getLast? = rest.getLast? := by
  have parts := marked_cutOptional '?' rest
  have noQuestion := not_mem_fst_cutOptional '?' rest
  rw [splitTarget, cutOptional_of_not_mem noFragment] at path query
  rw [toList_target, path, query, String.toList_ofList]
  generalize cutOptional ['?'] rest = cut at parts noQuestion
  obtain ⟨before, after⟩ := cut
  cases after with
  | some after =>
    -- Both end with the question mark and what follows it.
    refine Or.inr ?_
    rw [← parts, Option.map_some, Option.map_some, String.toList_ofList, marked,
      List.getLast?_append, List.getLast?_append, List.getLast?_cons]
    rfl
  | none =>
    rw [marked, List.append_nil] at parts
    subst parts
    rw [Option.map_none, Option.map_none, marked, List.append_nil]
    -- Nothing is left of the text, or it goes on with the slash that ended the authority.
    cases before with
    | nil => exact Or.inl (congrArg List.getLast? Path.normalize_nil)
    | cons first later =>
      have slash : first = '/' := by
        have marks := begins first rfl
        simp only [endsAuthority, Bool.or_eq_true, beq_iff_eq] at marks
        rcases marks with (slash | rfl) | rfl
        · exact slash
        · exact absurd List.mem_cons_self noQuestion
        · exact absurd List.mem_cons_self noFragment
      exact Path.getLast?_normalize (slash ▸ List.mem_cons_self)

theorem unmarked_of_splitTarget {rest path : List Char} {query : Option (List Char)}
    (found : splitTarget rest = (path, query)) :
    '?' ∉ path ∧ '#' ∉ path ∧ ∀ text, query = some text → '#' ∉ text := by
  have noHash := not_mem_fst_cutOptional '#' rest
  have noQuestion := not_mem_fst_cutOptional '?' (cutOptional ['#'] rest).1
  have mark : ['?'] ≠ [] := List.cons_ne_nil _ _
  rw [splitTarget] at found
  rw [found] at noQuestion
  refine ⟨noQuestion, fun member => noHash ?_, fun text same member => noHash ?_⟩
  · exact mem_of_cutOptional mark (found ▸ member)
  · exact mem_of_cutOptional_some mark (found ▸ same) member

/-! ### What is read -/

/-- A URL that was read from a text without a fragment can be printed. -/
theorem printable_of_parse {input : String} {url : Url} (accepted : parse input = .ok url)
    (noFragment : '#' ∉ input.toList) : url.Printable := by
  obtain ⟨scheme, afterScheme, text, schemeFound, slashesFound, accepted⟩ :=
    parseTrimmed_eq_ok_iff.mp accepted
  obtain ⟨authority, rest, rfl, separated, hostText, portText, host, port, _, hostFound, portFound,
    same⟩ := parseAuthority_eq_ok_iff.mp accepted
  have suffix : rest <:+ trim input.toList := ((List.suffix_append authority rest).trans
    (suffix_of_afterSlashes slashesFound)).trans (suffix_of_parseScheme schemeFound)
  have noHash : '#' ∉ rest := fun member =>
    noFragment (mem_of_mem_trim (suffix.subset member))
  have lastOfTarget := getLast?_target separated.ends noHash (congrArg Url.path same)
    (congrArg Url.query same)
  obtain ⟨noQuestion, noHashInPath, noHashInQuery⟩ := @unmarked_of_splitTarget rest _ _ rfl
  have path : url.path.toList = Path.normalize (splitTarget rest).1 := by
    rw [same, String.toList_ofList]
  refine ⟨⟨?scheme, ?port, ?path, ?unmarked⟩, ?host, ?query, ?ending⟩
  case scheme =>
    rw [same, String.toList_ofList]
    exact isLowerScheme_of_parseScheme schemeFound
  case port =>
    rw [same]
    exact not_default_of_parsePort portFound
  case path =>
    rw [path]
    exact Path.isNormal_normalize _
  case unmarked =>
    rw [path]
    constructor
    · intro member
      exact (Path.mem_of_mem_normalize member).elim (by decide) noQuestion
    · intro member
      exact (Path.mem_of_mem_normalize member).elim (by decide) noHashInPath
  case host =>
    rw [same, String.toList_ofList]
    exact parseHost_of_parseHost hostFound
  case query =>
    intro query isQuery
    rw [same] at isQuery
    obtain ⟨written, found, rfl⟩ := Option.map_eq_some_iff.mp isQuery
    rw [String.toList_ofList]
    exact noHashInQuery written found
  case ending =>
    intro last isLast
    rcases lastOfTarget with slash | asText
    · rw [slash] at isLast
      cases isLast
      decide
    · obtain ⟨before, whole⟩ := suffix
      have lastOfText : (trim input.toList).getLast? = some last := by
        rw [← whole, List.getLast?_append, ← asText, isLast]
        rfl
      exact isBlank_getLast?_trim lastOfText

end WebFetch.Url
