/-
This file takes the reading of a URL apart into its steps and says which characters stand in the
parts that are read. The host is made of the characters of names and addresses, so the authority is
made of few characters more. The path and the query are made of characters of the text that was
read, whatever they are, beside the marks that are put between their parts.
-/

import WebFetch.Proofs.Cut
import WebFetch.Proofs.Text.Numeral
import WebFetch.Sequenced
import WebFetch.Url.Parser

namespace WebFetch

/-! ### Addresses -/

namespace Address

/-- Whether a character may stand in an address. -/
def isAddressCharacter (character : Char) : Bool :=
  (Numeral.digit? 16 character).isSome || character == ':' || character == '.'

/-- Whether a text is the rest of another after characters of an address. -/
def Reads (text rest : List Char) : Prop :=
  ∃ read, text = read ++ rest ∧ ∀ character ∈ read, isAddressCharacter character = true

theorem reads_refl (text : List Char) : Reads text text :=
  ⟨[], rfl, List.forall_mem_nil _⟩

theorem Reads.trans {text between rest : List Char} (first : Reads text between)
    (second : Reads between rest) : Reads text rest := by
  obtain ⟨read, rfl, proper⟩ := first
  obtain ⟨later, rfl, laterProper⟩ := second
  exact ⟨read ++ later, (List.append_assoc _ _ _).symm,
    List.forall_mem_append.mpr ⟨proper, laterProper⟩⟩

/-- A text of which nothing is left is made of characters of an address. -/
theorem Reads.forall_mem {text : List Char} (reads : Reads text []) :
    ∀ character ∈ text, isAddressCharacter character = true := by
  obtain ⟨read, rfl, proper⟩ := reads
  rwa [List.append_nil]

theorem reads_of_number? {radix limit value : Nat} {text rest : List Char} (most : radix ≤ 16)
    (found : number? radix limit text = some (value, rest)) : Reads text rest := by
  simp only [number?] at found
  split at found
  · cases found
  · split at found
    · cases found
      refine ⟨text.takeWhile fun character => (Numeral.digit? radix character).isSome, ?_, ?_⟩
      · exact List.prefix_iff_eq_append.mp (List.takeWhile_prefix _) |>.symm
      · intro character member
        have isDigit := List.all_eq_true.mp List.all_takeWhile character member
        rw [isAddressCharacter, Numeral.isSome_digit?_mono most isDigit]
        rfl
    · cases found

theorem reads_of_octet? {value : Nat} {text rest : List Char}
    (found : octet? text = some (value, rest)) : Reads text rest := by
  unfold octet? at found
  split at found
  · rename_i number
    split at found
    · cases found
      exact reads_of_number? (by decide) number
    · cases found
  · cases found

theorem reads_of_character? {expected : Char} {text rest : List Char}
    (proper : isAddressCharacter expected = true) (found : character? expected text = some rest) :
    Reads text rest := by
  cases text with
  | nil => cases found
  | cons first others =>
    rw [character?] at found
    split at found
    · rename_i same
      cases found
      exact ⟨[first], rfl, List.forall_mem_singleton.mpr (same ▸ proper)⟩
    · cases found

theorem reads_of_quad? {octets : List Nat} {text rest : List Char}
    (found : quad? text = some (octets, rest)) : Reads text rest := by
  have point : isAddressCharacter '.' = true := by decide
  simp only [quad?, Option.bind_eq_bind, Option.bind_eq_some_iff] at found
  obtain ⟨⟨first, afterFirst⟩, firstRead, afterPoint, pointRead, ⟨second, afterSecond⟩, secondRead,
    afterPoint', pointRead', ⟨third, afterThird⟩, thirdRead, afterPoint'', pointRead'',
    ⟨fourth, afterFourth⟩, fourthRead, same⟩ := found
  cases same
  exact (reads_of_octet? firstRead).trans ((reads_of_character? point pointRead).trans
    ((reads_of_octet? secondRead).trans ((reads_of_character? point pointRead').trans
      ((reads_of_octet? thirdRead).trans ((reads_of_character? point pointRead'').trans
        (reads_of_octet? fourthRead))))))

/-- Reading groups uses up characters of an address. -/
theorem reads_groups (separated : Bool) (room : Nat) (text : List Char) :
    Reads text (groups separated room text).2.2 := by
  induction room generalizing separated text with
  | zero => exact reads_refl text
  | succ room inductionHypothesis =>
    rw [groups]
    have begins : ∀ start, (if separated then character? ':' text else some text) = some start →
        Reads text start := by
      intro start found
      cases separated with
      | true => exact reads_of_character? (by decide) found
      | false =>
        cases found
        exact reads_refl text
    generalize (if separated then character? ':' text else some text) = started at begins ⊢
    cases started with
    | none => exact reads_refl text
    | some start =>
      have first := begins start rfl
      cases quad : (if 1 ≤ room then quad? start else none) with
      | some found =>
        have read : quad? start = some found := by
          split at quad
          · exact quad
          · cases quad
        simp only [quad]
        exact first.trans (reads_of_quad? read)
      | none =>
        cases group : number? 16 4 start with
        | none =>
          simp only [quad, group]
          exact reads_refl text
        | some found =>
          simp only [quad, group]
          exact first.trans ((reads_of_number? (Nat.le_refl 16) group).trans
            (inductionHypothesis true found.2))

/-- An address of 128 bits is made of characters of an address. -/
theorem forall_mem_of_parseV6? {text : List Char} (found : (parseV6? text).isSome = true) :
    ∀ character ∈ text, isAddressCharacter character = true := by
  rw [parseV6?, Option.isSome_map] at found
  have first := reads_groups false 8 text
  unfold parseGroups? at found
  generalize groups false 8 text = read at first found
  obtain ⟨before, ended, rest⟩ := read
  refine Reads.forall_mem (first.trans ?_)
  dsimp only at found ⊢
  split at found
  · split at found
    · rename_i whole
      rw [List.isEmpty_iff.mp whole]
      exact reads_refl []
    · cases found
  · split at found
    · cases found
    · split at found
      · rename_i after
        have second := reads_groups false (7 - before.length) after
        split at found
        · rename_i whole
          rw [List.isEmpty_iff.mp whole] at second
          exact Reads.trans ⟨[':', ':'], rfl, List.all_eq_true.mp (by decide)⟩ second
        · cases found
      · cases found

/-- Groups behind the first begin with a colon. -/
theorem colon_mem_of_groups_true {room : Nat} {text : List Char}
    (some : (groups true room text).1 ≠ []) : ':' ∈ text := by
  cases room with
  | zero => exact absurd rfl some
  | succ room =>
    rw [groups, if_pos rfl] at some
    cases colon : character? ':' text with
    | none =>
      rw [colon] at some
      exact absurd rfl some
    | some start =>
      obtain ⟨first, rest, rfl⟩ : ∃ first rest, text = first :: rest := by
        cases text with
        | nil => cases colon
        | cons first rest => exact ⟨first, rest, rfl⟩
      rw [character?] at colon
      split at colon
      · rename_i same
        exact same ▸ List.mem_cons_self
      · cases colon

/-- More groups than four octets make are separated by a colon. -/
theorem colon_mem_of_groups_false {room : Nat} {text : List Char}
    (many : 2 < (groups false room text).1.length) : ':' ∈ text := by
  cases room with
  | zero => cases many
  | succ room =>
    rw [groups, if_neg Bool.false_ne_true] at many
    cases quad : (if 1 ≤ room then quad? text else none) with
    | some found =>
      simp only [quad, groupsOfQuad] at many
      split at many
      · exact absurd many (by simp)
      · exact absurd many (by simp)
    | none =>
      cases group : number? 16 4 text with
      | none =>
        simp only [quad, group] at many
        cases many
      | some found =>
        simp only [quad, group, List.length_cons] at many
        obtain ⟨read, same, _⟩ := reads_of_number? (Nat.le_refl 16) group
        rw [same]
        refine List.mem_append_right _ (@colon_mem_of_groups_true room _ fun nothing => ?_)
        rw [nothing] at many
        exact absurd many (by decide)

/-- An address of 128 bits has a colon. -/
theorem colon_mem_of_parseV6? {text : List Char} (found : (parseV6? text).isSome = true) :
    ':' ∈ text := by
  rw [parseV6?, Option.isSome_map, parseGroups?] at found
  obtain ⟨read, same, _⟩ := reads_groups false 8 text
  have many := @colon_mem_of_groups_false 8 text
  generalize groups false 8 text = result at found same many
  obtain ⟨before, ended, rest⟩ := result
  dsimp only at found same many
  split at found
  · rename_i whole
    exact many (by omega)
  · split at found
    · cases found
    · split at found
      · rw [same]
        exact List.mem_append_right _ List.mem_cons_self
      · cases found

end Address

namespace Url

/-! ### The authority -/

/-- Whether a character may stand in a host. -/
def isHostCharacter (character : Char) : Bool :=
  Address.isAddressCharacter character || isLabelCharacter character

theorem isLabelCharacter_of_isHostName {host : List Char} (isName : isHostName host = true)
    {character : Char} (member : character ∈ host) (point : character ≠ '.') :
    isLabelCharacter character = true := by
  obtain ⟨label, isPiece, inLabel⟩ := (exists_mem_split_iff point host).mpr member
  have labels := List.all_eq_true.mp (Bool.and_eq_true_iff.mp isName).2 label isPiece
  exact List.all_eq_true.mp (Bool.and_eq_true_iff.mp labels).2 character inLabel

theorem forall_mem_of_isHostName {host : List Char} (isName : isHostName host = true) :
    ∀ character ∈ host, isHostCharacter character = true := by
  intro character member
  by_cases point : character = '.'
  · rw [point]
    decide
  · rw [isHostCharacter, isLabelCharacter_of_isHostName isName member point, Bool.or_true]

/-- The host is the text in lower case, if that is a host. -/
theorem parseHost_eq_ok_iff {bracketed : Bool} {text host : List Char} :
    parseHost bracketed text = .ok host ↔
      host = text.map Char.toLower ∧
        (if bracketed then (Address.parseV6? host).isSome else isHostName host) = true := by
  rw [parseHost]
  constructor
  · intro found
    by_cases valid : (if bracketed then (Address.parseV6? (text.map Char.toLower)).isSome
        else isHostName (text.map Char.toLower)) = true
    · rw [if_pos valid] at found
      cases found
      exact ⟨rfl, valid⟩
    · rw [if_neg valid] at found
      cases found
  · rintro ⟨rfl, valid⟩
    rw [if_pos valid]

theorem forall_mem_of_parseHost {bracketed : Bool} {text host : List Char}
    (found : parseHost bracketed text = .ok host) :
    ∀ character ∈ host, isHostCharacter character = true := by
  have valid := (parseHost_eq_ok_iff.mp found).2
  cases bracketed with
  | true =>
    intro character member
    rw [isHostCharacter, Address.forall_mem_of_parseV6? valid character member, Bool.true_or]
  | false => exact forall_mem_of_isHostName valid

/-! ### Parts of the text that was read -/

theorem suffix_of_parseScheme {input scheme rest : List Char}
    (found : parseScheme input = .ok (scheme, rest)) : rest <:+ input := by
  unfold parseScheme at found
  split at found
  · cases found
  · rename_i before after colon
    split at found
    · cases found
    · split at found
      · cases found
      · split at found
        · cases found
        · cases found
          rw [eq_of_cut (List.cons_ne_nil _ _) colon]
          exact List.suffix_append _ _

theorem suffix_of_afterSlashes {text rest : List Char} (found : afterSlashes text = .ok rest) :
    rest <:+ text := by
  unfold afterSlashes at found
  split at found
  · cases found
    exact ⟨['/', '/'], rfl⟩
  · cases found

/-- Whether an authority ends where the rest of a text begins. -/
structure Separated (authority rest : List Char) : Prop where
  unended : ∀ character ∈ authority, endsAuthority character = false
  ends : ∀ first, rest.head? = some first → endsAuthority first = true

theorem separated_takeWhile (text : List Char) :
    Separated (text.takeWhile fun character => !endsAuthority character)
      (text.dropWhile fun character => !endsAuthority character) where
  unended := by
    intro character member
    have unended := List.all_eq_true.mp List.all_takeWhile character member
    simpa using unended
  ends := by
    intro first begins
    have ends := List.head?_dropWhile_not (fun character => !endsAuthority character) text
    rw [begins] at ends
    simpa using ends

/-- An authority is cut off where it ends. -/
theorem Separated.takeWhile_append {authority rest : List Char}
    (separated : Separated authority rest) :
    (authority ++ rest).takeWhile (fun character => !endsAuthority character) = authority ∧
      (authority ++ rest).dropWhile (fun character => !endsAuthority character) = rest := by
  have unended : ∀ character ∈ authority, (!endsAuthority character) = true := by
    intro character member
    rw [separated.unended character member]
    rfl
  rw [List.takeWhile_append_of_pos unended, List.dropWhile_append_of_pos unended]
  cases rest with
  | nil => simp
  | cons first later => simp [separated.ends first rfl]

/-- Whether an authority and what follows it are read as the parts of a URL. -/
def ReadsAs (scheme : String) (authority rest : List Char) (url : Url) : Prop :=
  ∃ hostText portText host port,
    splitHost authority = .ok (hostText, portText) ∧
    parseHost (authority.head? == some '[') hostText = .ok host ∧
    parsePort scheme portText = .ok port ∧
    url = ⟨scheme, String.ofList host, port,
      String.ofList (Path.normalize (splitTarget rest).1), (splitTarget rest).2.map String.ofList⟩

/-- What follows the slashes is read as an authority and the rest. -/
theorem parseAuthority_eq_ok_iff {scheme : String} {text : List Char} {url : Url} :
    parseAuthority scheme text = .ok url ↔
      ∃ authority rest, text = authority ++ rest ∧ Separated authority rest ∧
        ReadsAs scheme authority rest url := by
  constructor
  · intro accepted
    obtain ⟨⟨hostText, portText⟩, hostSplit, accepted⟩ := exists_ok_of_bind accepted
    obtain ⟨host, hostFound, accepted⟩ := exists_ok_of_bind accepted
    obtain ⟨port, portFound, accepted⟩ := exists_ok_of_bind accepted
    exact ⟨_, _, List.takeWhile_append_dropWhile.symm, separated_takeWhile text, hostText, portText,
      host, port, hostSplit, hostFound, portFound, (Except.ok.inj accepted).symm⟩
  · rintro ⟨authority, rest, rfl, separated, hostText, portText, host, port, hostSplit, hostFound,
      portFound, rfl⟩
    obtain ⟨before, after⟩ := separated.takeWhile_append
    rw [parseAuthority, before, after]
    exact bind_eq_ok hostSplit (bind_eq_ok hostFound (bind_eq_ok portFound rfl))

/-- The scheme is read before what follows the slashes. -/
theorem parseTrimmed_eq_ok_iff {text : List Char} {url : Url} :
    parseTrimmed text = .ok url ↔
      ∃ scheme afterScheme rest, parseScheme text = .ok (scheme, afterScheme) ∧
        afterSlashes afterScheme = .ok rest ∧
        parseAuthority (String.ofList scheme) rest = .ok url := by
  unfold parseTrimmed
  constructor
  · intro accepted
    split at accepted
    · cases accepted
    · obtain ⟨⟨scheme, afterScheme⟩, schemeFound, accepted⟩ := exists_ok_of_bind accepted
      obtain ⟨rest, slashesFound, accepted⟩ := exists_ok_of_bind accepted
      exact ⟨scheme, afterScheme, rest, schemeFound, slashesFound, accepted⟩
  · rintro ⟨scheme, afterScheme, rest, schemeFound, slashesFound, accepted⟩
    have some : text.isEmpty ≠ true := by
      intro nothing
      rw [List.isEmpty_iff.mp nothing] at schemeFound
      cases schemeFound
    rw [if_neg some]
    exact bind_eq_ok schemeFound (bind_eq_ok slashesFound accepted)

/-- The host was accepted, and the path and the query come from the end of the text. -/
theorem exists_parts_of_parse {input : String} {url : Url} (accepted : parse input = .ok url) :
    ∃ bracketed text host rest, rest <:+ trim input.toList ∧
      parseHost bracketed text = .ok host ∧ url.host = String.ofList host ∧
      url.path = String.ofList (Path.normalize (splitTarget rest).1) ∧
      url.query = (splitTarget rest).2.map String.ofList := by
  obtain ⟨scheme, afterScheme, text, schemeFound, slashesFound, accepted⟩ :=
    parseTrimmed_eq_ok_iff.mp accepted
  obtain ⟨authority, rest, rfl, _, hostText, portText, host, port, _, hostFound, _, rfl⟩ :=
    parseAuthority_eq_ok_iff.mp accepted
  have suffix := ((List.suffix_append authority rest).trans
    (suffix_of_afterSlashes slashesFound)).trans (suffix_of_parseScheme schemeFound)
  exact ⟨_, hostText, host, rest, suffix, hostFound, rfl, rfl, rfl⟩

/-- Whether a character may stand in an authority. -/
def isAuthorityCharacter (character : Char) : Bool :=
  isHostCharacter character || character == '[' || character == ']'

/-- An authority is made of the characters of the host and of few others. -/
theorem forall_mem_authority_of_host {url : Url}
    (proper : ∀ character ∈ url.host.toList, isHostCharacter character = true) :
    ∀ character ∈ url.authority.toList, isAuthorityCharacter character = true := by
  have inHost : ∀ character ∈ url.host.toList, isAuthorityCharacter character = true := by
    intro character member
    rw [isAuthorityCharacter, proper character member, Bool.true_or, Bool.true_or]
  have inBrackets : ∀ character ∈ url.bracketedHost.toList,
      isAuthorityCharacter character = true := by
    unfold bracketedHost
    split
    · have opening : ∀ character ∈ "[".toList, isAuthorityCharacter character = true :=
        List.all_eq_true.mp (by decide)
      have closing : ∀ character ∈ "]".toList, isAuthorityCharacter character = true :=
        List.all_eq_true.mp (by decide)
      rw [String.toList_append, String.toList_append]
      exact List.forall_mem_append.mpr ⟨List.forall_mem_append.mpr ⟨opening, inHost⟩, closing⟩
    · exact inHost
  unfold authority
  split
  · rename_i port _
    have digits : ∀ character ∈ port.toNat.repr.toList, isAuthorityCharacter character = true := by
      rw [Nat.toList_repr]
      exact Numeral.forall_mem_toDigits .ten (by decide) _
    have colon : ∀ character ∈ ":".toList, isAuthorityCharacter character = true :=
      List.all_eq_true.mp (by decide)
    rw [String.toList_append, String.toList_append]
    exact List.forall_mem_append.mpr ⟨List.forall_mem_append.mpr ⟨inBrackets, colon⟩, digits⟩
  · exact inBrackets

/-- The authority of a URL that was read is made of few characters. -/
theorem forall_mem_authority {input : String} {url : Url} (accepted : parse input = .ok url) :
    ∀ character ∈ url.authority.toList, isAuthorityCharacter character = true := by
  obtain ⟨_, _, _, _, _, hostFound, host, _⟩ := exists_parts_of_parse accepted
  refine forall_mem_authority_of_host fun character member => ?_
  rw [host, String.toList_ofList] at member
  exact forall_mem_of_parseHost hostFound character member

/-! ### The target -/

theorem mem_of_cutOptional {mark sequence : List Char} (some : mark ≠ []) {character : Char}
    (member : character ∈ (cutOptional mark sequence).1) : character ∈ sequence := by
  unfold cutOptional at member
  split at member
  · exact member
  · rename_i found
    rw [eq_of_cut some found]
    exact List.mem_append_left _ (List.mem_append_left _ member)

theorem mem_of_cutOptional_some {mark sequence after : List Char} (some : mark ≠ [])
    (found : (cutOptional mark sequence).2 = Option.some after) {character : Char}
    (member : character ∈ after) : character ∈ sequence := by
  unfold cutOptional at found
  split at found
  · cases found
  · rename_i cutFound
    cases found
    rw [eq_of_cut some cutFound]
    exact List.mem_append_right _ member

end Url

namespace Path

/-- The segments that are kept are among those that were there. -/
theorem mem_of_mem_foldl_push {kept segments : List (List Char)} {segment : List Char}
    (member : segment ∈ segments.foldl push kept) : segment ∈ kept ∨ segment ∈ segments := by
  induction segments generalizing kept with
  | nil => exact Or.inl member
  | cons next segments inductionHypothesis =>
    rcases inductionHypothesis member with before | later
    · unfold push at before
      split at before
      · exact Or.inl before
      · split at before
        · exact Or.inl (List.mem_of_mem_tail before)
        · rcases List.mem_cons.mp before with same | inKept
          · exact Or.inr (same ▸ List.mem_cons_self)
          · exact Or.inl inKept
    · exact Or.inr (List.mem_cons_of_mem _ later)

theorem mem_of_mem_join {segments : List (List Char)} {character : Char}
    (member : character ∈ join segments) :
    character = '/' ∨ ∃ segment ∈ segments, character ∈ segment := by
  unfold join at member
  split at member
  · exact Or.inl (List.mem_singleton.mp member)
  · obtain ⟨segment, inSegments, member⟩ := List.mem_flatMap.mp member
    exact (List.mem_cons.mp member).imp_right fun inside => ⟨segment, inSegments, inside⟩

/-- Normalizing a path brings in no character but slashes. -/
theorem mem_of_mem_normalize {path : List Char} {character : Char}
    (member : character ∈ normalize path) : character = '/' ∨ character ∈ path := by
  have joined : character = '/' ∨ character ∈ join (resolve path) := by
    simp only [normalize] at member
    split at member
    · exact (List.mem_append.mp member).symm.imp_left List.mem_singleton.mp
    · exact Or.inr member
  rcases joined with slash | inJoin
  · exact Or.inl slash
  · rcases mem_of_mem_join inJoin with slash | ⟨segment, kept, inside⟩
    · exact Or.inl slash
    · by_cases slash : character = '/'
      · exact Or.inl slash
      · rcases mem_of_mem_foldl_push (List.mem_reverse.mp kept) with none | isPiece
        · cases none
        · exact Or.inr ((exists_mem_split_iff slash path).mp ⟨segment, isPiece, inside⟩)

end Path

namespace Url

/-- The target of a URL that was read is made of characters of the text and of the marks of a
path and a query. -/
theorem mem_of_mem_target {input : String} {url : Url} (accepted : parse input = .ok url)
    {character : Char} (member : character ∈ url.target.toList) :
    character = '/' ∨ character = '?' ∨ character ∈ trim input.toList := by
  obtain ⟨_, _, _, rest, suffix, _, _, path, query⟩ := exists_parts_of_parse accepted
  have inPath : character ∈ url.path.toList → character = '/' ∨ character ∈ rest := by
    intro member
    rw [path, String.toList_ofList] at member
    exact (Path.mem_of_mem_normalize member).imp_right fun inside =>
      mem_of_cutOptional (List.cons_ne_nil _ _) (mem_of_cutOptional (List.cons_ne_nil _ _) inside)
  have found : character = '/' ∨ character = '?' ∨ character ∈ rest := by
    unfold target at member
    cases written : (splitTarget rest).2 with
    | none =>
      rw [query, written] at member
      exact (inPath member).imp_right Or.inr
    | some text =>
      rw [query, written] at member
      simp only [Option.map_some, String.toList_append, String.toList_ofList, List.mem_append]
        at member
      rcases member with (inside | mark) | inside
      · exact (inPath inside).imp_right Or.inr
      · exact Or.inr (Or.inl (List.mem_singleton.mp mark))
      · exact Or.inr (Or.inr (mem_of_cutOptional (List.cons_ne_nil _ _)
          (mem_of_cutOptional_some (List.cons_ne_nil _ _) written inside)))
  exact found.imp_right (Or.imp_right fun inside => suffix.subset inside)

end Url

end WebFetch
