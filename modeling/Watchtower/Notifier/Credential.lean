import Watchtower.Core.Scan
import Watchtower.Notifier.Shapes

/-!
# Credentials in a text

What the first of the patterns reads, part by part, and what it makes of an `Authorization` header.

* `credentialNames` — the names, in lower case.
* `CredentialParts` — the parts of a credential; **`exists_parts`** — a match consists of them.
* `headerName` — the header; **`length_le_of_header`** — what begins before it ends with its name.
* **`eq_header_of_covers`** — only a match that begins with the header reaches the token behind the
  scheme, and only behind `Bearer`.
-/

namespace Watchtower

open Core Core.Regex Py

/-! ## The parts of a credential -/

/-- The spellings of a name of two words. -/
def spellings (first second : String) : List PyStr :=
  [py first ++ py second, py first ++ (py "_" ++ py second), py first ++ (py "-" ++ py second)]

/-- The names of credentials, in lower case. -/
def credentialNames : List PyStr :=
  py "authorization" :: py "password" :: py "passwd" :: py "secret" ::
    (spellings "api" "key" ++ spellings "access" "token" ++ spellings "auth" "token")

/-- What the pattern for credentials reads. -/
structure CredentialParts where
  name : PyStr
  front : PyStr
  separator : PyChar
  back : PyStr
  word : PyStr
  value : PyStr
  name_mem : name.map foldCase ∈ credentialNames
  front_blank : ∀ c ∈ front, isSpace c = true
  separates : among (py ":=") separator = true
  back_blank : ∀ c ∈ back, isSpace c = true
  word_bearer : word = [] ∨ ∃ bearer blanks, word = bearer ++ blanks ∧
    bearer.map foldCase = py "bearer" ∧ blanks ≠ [] ∧ ∀ c ∈ blanks, isSpace c = true
  value_ne : value ≠ []
  value_chars : ∀ c ∈ value, isValueChar c = true

namespace CredentialParts

def text (parts : CredentialParts) : PyStr :=
  parts.name ++ (parts.front ++ parts.separator :: (parts.back ++ (parts.word ++ parts.value)))

/-- What is in no name is not in the name. -/
lemma not_mem_name (parts : CredentialParts) {c : PyChar}
    (h : credentialNames.all (fun name => !name.contains (foldCase c)) = true) :
    c ∉ parts.name := by
  intro hmem
  have hnot := List.all_eq_true.mp h _ parts.name_mem
  rw [Bool.not_eq_true', ← Bool.not_eq_true, List.contains_iff_mem] at hnot
  exact hnot (List.mem_map_of_mem hmem)

lemma not_mem_front (parts : CredentialParts) {c : PyChar} (h : isSpace c = false) :
    c ∉ parts.front := by
  intro hmem
  rw [parts.front_blank c hmem] at h
  cases h

lemma not_mem_back (parts : CredentialParts) {c : PyChar} (h : isSpace c = false) :
    c ∉ parts.back := by
  intro hmem
  rw [parts.back_blank c hmem] at h
  cases h

lemma not_mem_word (parts : CredentialParts) {c : PyChar} (h : isSpace c = false)
    (hletter : (py "bearer").contains (foldCase c) = false) : c ∉ parts.word := by
  intro hmem
  rcases parts.word_bearer with hnil | ⟨bearer, blanks, hword, hbearer, -, hblanks⟩
  · rw [hnil] at hmem
    cases hmem
  · rw [hword] at hmem
    rcases List.mem_append.mp hmem with hmem | hmem
    · rw [← Bool.not_eq_true, List.contains_iff_mem, ← hbearer] at hletter
      exact hletter (List.mem_map_of_mem hmem)
    · rw [hblanks c hmem] at h
      cases h

lemma name_ne_nil (parts : CredentialParts) : parts.name ≠ [] := by
  intro hnil
  have hmem := parts.name_mem
  rw [hnil] at hmem
  revert hmem
  decide

lemma length_name_le (parts : CredentialParts) : parts.name.length ≤ 13 := by
  have hall : credentialNames.all (fun name => decide (name.length ≤ 13)) = true := by decide
  have hle := of_decide_eq_true (List.all_eq_true.mp hall _ parts.name_mem)
  rwa [List.length_map] at hle

end CredentialParts

/-! ## A match in parts -/

section Match

variable [WordData]

lemma matches_litCaseless {s : PyStr} {prev next : Option PyChar} {m : PyStr}
    (h : Matches (litCaseless s) prev m next) : m.map foldCase = s := by
  induction s generalizing prev m with
  | nil =>
      obtain rfl : m = [] := h
      rfl
  | cons d s ih =>
      obtain ⟨m₁, m₂, rfl, ⟨c, rfl, hc⟩, hm₂⟩ := h
      rw [List.singleton_append, List.map_cons, ih hm₂]
      rw [caseless, beq_iff_eq] at hc
      rw [hc]

lemma matches_compound {first second : String} {prev next : Option PyChar} {m : PyStr}
    (h : Matches (compound first second) prev m next) :
    m.map foldCase ∈ spellings first second := by
  obtain ⟨m₁, m₂, rfl, hm₁, m₃, m₄, rfl, hm₃, m₅, m₆, rfl, hm₅, hm₆⟩ := h
  obtain rfl : m₆ = [] := hm₆
  simp only [List.map_append, List.append_nil, matches_litCaseless hm₁, matches_litCaseless hm₅]
  rcases hm₃ with ⟨c, rfl, hc⟩ | rfl
  · have hjoint : c = ofChar '_' ∨ c = ofChar '-' := by simpa [among, py] using hc
    rcases hjoint with rfl | rfl
    · rw [show List.map foldCase [ofChar '_'] = py "_" by decide]
      exact List.mem_cons_of_mem _ List.mem_cons_self
    · rw [show List.map foldCase [ofChar '-'] = py "-" by decide]
      exact List.mem_cons_of_mem _ (List.mem_cons_of_mem _ List.mem_cons_self)
  · exact List.mem_cons_self

lemma matches_credentialName {prev next : Option PyChar} {m : PyStr}
    (h : Matches credentialName prev m next) : m.map foldCase ∈ credentialNames := by
  rw [credentialNames]
  rcases h with h | h | h | h | h | h | h
  · simp [matches_litCaseless h]
  · simp [matches_compound h]
  · simp [matches_compound h]
  · simp [matches_compound h]
  · simp [matches_litCaseless h]
  · simp [matches_litCaseless h]
  · simp [matches_litCaseless h]

/-- **A match of the pattern consists of the parts of a credential.** -/
theorem exists_parts {prev next : Option PyChar} {m : PyStr}
    (h : Matches credentialPattern prev m next) :
    ∃ parts : CredentialParts, m = parts.text ∧ isEdge prev m.head? = true := by
  have hedge := isEdge_credential h
  obtain ⟨head, value, rfl, hhead, word, value, rfl, hword, hvalue⟩ := h
  obtain ⟨m₁, m₂, rfl, ⟨rfl, -⟩, name, m₃, rfl, hname, m₄, m₅, rfl, ⟨rfl, -⟩, front, m₆, rfl,
    hfront, m₇, m₈, rfl, ⟨separator, rfl, hseparator⟩, back, m₉, rfl, hback, hnil⟩ := hhead
  obtain rfl : m₉ = [] := hnil
  have hbearer : word = [] ∨ ∃ bearer blanks, word = bearer ++ blanks ∧
      bearer.map foldCase = py "bearer" ∧ blanks ≠ [] ∧ ∀ c ∈ blanks, isSpace c = true := by
    rcases hword with ⟨bearer, blanks, rfl, hm, hblanks⟩ | hnil
    · exact .inr ⟨bearer, blanks, rfl, matches_litCaseless hm, List.length_pos_iff.mp hblanks.1,
        hblanks.2⟩
    · exact .inl hnil
  refine ⟨⟨name, front, separator, back, word, value, matches_credentialName hname, hfront.2,
    hseparator, hback.2, hbearer, List.length_pos_iff.mp hvalue.1, hvalue.2⟩, ?_, hedge⟩
  simp [CredentialParts.text]

end Match

/-! ## The header -/

/-- The name of the header. -/
def headerName : PyStr := py "Authorization"

/-- `[!#$%&'*+.^_`|~0-9A-Za-z-]`, the characters of the name of an authentication scheme. -/
def isSchemeChar (c : PyChar) : Bool := isAsciiAlnum c || among (py "!#$%&'*+.^_`|~-") c

lemma isSpace_of_isSchemeChar {c : PyChar} (h : isSchemeChar c = true) : isSpace c = false := by
  rw [isSchemeChar, Bool.or_eq_true] at h
  rcases h with h | h
  · exact isSpace_of_isBearerChar (isBearerChar_of_isLongChar (by rw [isLongChar, h, Bool.true_or]))
  · have hall : (py "!#$%&'*+.^_`|~-").all (fun d => !isSpace d) = true := by decide
    simpa using List.all_eq_true.mp hall c (List.contains_iff_mem.mp h)

lemma separator_of_isSchemeChar {c : PyChar} (h : isSchemeChar c = true) :
    among (py ":=") c = false := by
  have hall : (py ":=").all (fun d => !isSchemeChar d) = true := by decide
  rw [among, ← Bool.not_eq_true, List.contains_iff_mem]
  intro hmem
  have hnot := List.all_eq_true.mp hall c hmem
  rw [h] at hnot
  cases hnot

/-- White space cannot be at the end of a text that ends otherwise. -/
lemma eq_nil_of_blank {x y blank : PyStr} {d : PyChar} (hd : isSpace d = false)
    (h : x ++ [d] = y ++ blank) (hblank : ∀ c ∈ blank, isSpace c = true) : blank = [] := by
  rcases List.eq_nil_or_concat blank with rfl | ⟨blank, e, rfl⟩
  · rfl
  · rw [List.concat_eq_append, ← List.append_assoc] at h
    obtain ⟨-, he⟩ := List.append_inj' h rfl
    obtain rfl := (List.cons_eq_cons.mp he).1
    rw [hblank d (by simp)] at hd
    cases hd

section Header

variable [WordData]

/-- **What begins before the header ends with its name**: the space behind it is part of no
match. -/
theorem length_le_of_header {prev : Option PyChar} {v m z rest : PyStr} (hv : v ≠ [])
    (h : v ++ (headerName ++ [ofChar ':'] ++ ofChar ' ' :: z) = m ++ rest)
    (hm : Matches credentialPattern prev m rest.head?) :
    m.length ≤ (v ++ (headerName ++ [ofChar ':'])).length := by
  by_contra hlong
  obtain ⟨m', hm'⟩ : ∃ m', m = v ++ headerName ++ ofChar ':' :: ofChar ' ' :: m' := by
    rw [← List.append_assoc] at h
    rcases List.append_eq_append_iff.mp h with ⟨w, rfl, hw⟩ | ⟨w, hw, -⟩
    · cases w with
      | nil => exact absurd (by simp) hlong
      | cons d w =>
          obtain ⟨rfl, -⟩ := List.cons_eq_cons.mp hw
          exact ⟨w, by simp⟩
    · exact absurd (by rw [hw, List.length_append]; exact Nat.le_add_right _ _) hlong
  obtain ⟨parts, hparts, -⟩ := exists_parts hm
  rw [hm', CredentialParts.text] at hparts
  obtain ⟨k, hname, hrest⟩ := exists_append_of_not_mem hparts (parts.not_mem_name (by decide))
  obtain ⟨k, rfl, hfront⟩ := exists_append_of_not_mem hrest.symm (parts.not_mem_front (by decide))
  cases k with
  | nil =>
      -- the colon is the separator, and the name is too long
      rw [List.append_nil] at hname
      have hblank : parts.front = [] := by
        have hlast : v ++ headerName = v ++ py "Authorizatio" ++ [ofChar 'n'] := by
          rw [List.append_assoc]
          rfl
        rw [hlast] at hname
        exact eq_nil_of_blank (by decide) hname parts.front_blank
      have hlen := congrArg List.length hname
      have hthirteen : headerName.length = 13 := by decide
      have hpos := List.length_pos_iff.mpr hv
      have hle := parts.length_name_le
      rw [hblank, List.append_nil, List.length_append, hthirteen] at hlen
      omega
  | cons d k =>
      -- the colon is in the value, and so is the space
      obtain ⟨-, hseparator⟩ := List.cons_eq_cons.mp hfront
      obtain ⟨k, rfl, hback⟩ := exists_append_of_not_mem hseparator.symm
        (parts.not_mem_back (by decide))
      obtain ⟨k, rfl, hword⟩ := exists_append_of_not_mem hback.symm
        (parts.not_mem_word (by decide) (by decide))
      have hspace := parts.value_chars (ofChar ' ') (by rw [hword]; simp)
      revert hspace
      decide

/-- The header up to the token, for a scheme. -/
def headerOf (scheme : PyStr) : PyStr :=
  headerName ++ ofChar ':' :: (ofChar ' ' :: (scheme ++ [ofChar ' ']))

omit [WordData] in
/-- The space behind the scheme. -/
lemma getLast?_of_header {scheme front u v : PyStr} (hv : v ≠ [])
    (hu : front ++ headerOf scheme = u ++ v) : v.getLast? = some (ofChar ' ') := by
  have hlast := congrArg List.getLast? hu
  rw [List.getLast?_append_of_ne_nil u hv] at hlast
  have hend : front ++ headerOf scheme
      = front ++ headerName ++ ofChar ':' :: ofChar ' ' :: scheme ++ [ofChar ' '] := by
    simp [headerOf]
  rw [← hlast, hend, List.getLast?_concat]

omit [WordData] in
/-- The name of a credential at the end of the header is the whole of it. -/
lemma name_eq_header {front u name : PyStr} (h : front ++ headerName = u ++ name)
    (hname : name.map foldCase ∈ credentialNames) : u = front ∧ name = headerName := by
  have hthirteen : headerName.length = 13 := by decide
  rcases List.append_eq_append_iff.mp h with ⟨w, rfl, hw⟩ | ⟨w, rfl, hw⟩
  · have hall : (List.range 14).all (fun i => i == 0 ||
        !credentialNames.contains ((headerName.drop i).map foldCase)) = true := by decide
    have hlen := congrArg List.length hw
    rw [hthirteen, List.length_append] at hlen
    have hdrop : headerName.drop w.length = name := by rw [hw, List.drop_left]
    have hzero := List.all_eq_true.mp hall w.length (List.mem_range.mpr (by omega))
    rw [hdrop, Bool.or_eq_true, beq_iff_eq, Bool.not_eq_true', ← Bool.not_eq_true,
      List.contains_iff_mem] at hzero
    obtain rfl := List.length_eq_zero_iff.mp (hzero.resolve_right fun hnot => hnot hname)
    exact ⟨List.append_nil front, hw.symm⟩
  · have hall : credentialNames.all (fun name => decide (name.length ≤ 13)) = true := by decide
    have hle := of_decide_eq_true (List.all_eq_true.mp hall _ hname)
    rw [List.length_map, hw, List.length_append, hthirteen] at hle
    obtain rfl := List.length_eq_zero_iff.mp (show w.length = 0 by omega)
    exact ⟨(List.append_nil u).symm, hw⟩

omit [WordData] in
/-- Between the colon of the header and the token there is room for a scheme only if it is
`Bearer`. -/
lemma CredentialParts.scheme_bearer (parts : CredentialParts) {scheme : PyStr} (hne : scheme ≠ [])
    (hscheme : ∀ d ∈ scheme, isSchemeChar d = true)
    (h : ofChar ' ' :: (scheme ++ [ofChar ' ']) = parts.back ++ parts.word) :
    scheme.map foldCase = py "bearer" := by
  obtain ⟨d, rest, rfl⟩ := List.exists_cons_of_ne_nil hne
  have hd : isSpace d = false := isSpace_of_isSchemeChar (hscheme d List.mem_cons_self)
  have hback : [ofChar ' '] ++ d :: (rest ++ [ofChar ' ']) = parts.back ++ parts.word := h
  obtain ⟨k, hspace, hword⟩ := exists_append_of_not_mem hback (parts.not_mem_back hd)
  rcases parts.word_bearer with hnil | ⟨bearer, blanks, heq, hbearer, hne', hblanks⟩
  · rw [hnil] at hword
    cases k <;> cases hword
  · have hspaceless : ofChar ' ' ∉ bearer := by
      intro hmem
      have hfold := List.mem_map_of_mem (f := foldCase) hmem
      rw [hbearer] at hfold
      revert hfold
      decide
    rw [heq] at hword
    cases k with
    | cons e k =>
        -- the word begins with a letter
        exfalso
        obtain ⟨b, bearer, rfl⟩ : ∃ b l, bearer = b :: l := by
          refine List.exists_cons_of_ne_nil ?_
          rintro rfl
          cases hbearer
        obtain ⟨rfl, -⟩ := List.cons_eq_cons.mp hword
        have he : b ∈ [ofChar ' '] := by rw [hspace]; simp
        rw [List.mem_singleton.mp he] at hspaceless
        exact hspaceless List.mem_cons_self
    | nil =>
        have hsplit : d :: rest ++ ofChar ' ' :: [] = bearer ++ blanks := hword.symm
        obtain ⟨k, hscheme', hblank⟩ := exists_append_of_not_mem hsplit hspaceless
        have hnil : k = [] := by
          cases k with
          | nil => rfl
          | cons e k =>
              have hspace' := hblanks e (by rw [hblank]; simp)
              rw [isSpace_of_isSchemeChar (hscheme e (by rw [hscheme']; simp))] at hspace'
              cases hspace'
        rw [hscheme', hnil, List.append_nil, hbearer]

/-- **Only a match that begins with the header reaches the token**, and only behind `Bearer`. -/
theorem eq_header_of_covers {scheme : PyStr} (hne : scheme ≠ [])
    (hscheme : ∀ d ∈ scheme, isSchemeChar d = true) {c : PyChar}
    (hc : c = ofChar '~' ∨ c = ofChar '.') {front u v m : PyStr} (hv : v ≠ [])
    (hu : front ++ headerOf scheme = u ++ v) {prev next : Option PyChar}
    (hm : Matches credentialPattern prev (v ++ c :: m) next) :
    u = front ∧ v = headerOf scheme ∧ scheme.map foldCase = py "bearer" := by
  obtain ⟨parts, hparts, -⟩ := exists_parts hm
  -- the parts before the value end where the token begins
  have hends : v
      = parts.name ++ (parts.front ++ parts.separator :: (parts.back ++ parts.word)) := by
    obtain ⟨k, rfl, hname⟩ := exists_append_of_not_mem hparts
      (parts.not_mem_name (by rcases hc with rfl | rfl <;> decide))
    obtain ⟨k, rfl, hfront⟩ := exists_append_of_not_mem hname.symm
      (parts.not_mem_front (by rcases hc with rfl | rfl <;> decide))
    cases k with
    | nil =>
        obtain ⟨hsep, -⟩ := List.cons_eq_cons.mp hfront
        have hseparates := parts.separates
        rw [hsep] at hseparates
        rcases hc with rfl | rfl <;> exact absurd hseparates (by decide)
    | cons d k =>
        obtain ⟨rfl, hseparator⟩ := List.cons_eq_cons.mp hfront
        obtain ⟨k, rfl, hback⟩ := exists_append_of_not_mem hseparator.symm
          (parts.not_mem_back (by rcases hc with rfl | rfl <;> decide))
        obtain ⟨k, rfl, hword⟩ := exists_append_of_not_mem hback.symm
          (parts.not_mem_word (by rcases hc with rfl | rfl <;> decide)
            (by rcases hc with rfl | rfl <;> decide))
        -- the value begins with the token, for it holds no space
        have hnil : k = [] := by
          rcases List.eq_nil_or_concat k with rfl | ⟨k, e, rfl⟩
          · rfl
          · have hlast := getLast?_of_header hv hu
            have hend : parts.name ++ (parts.front ++ parts.separator :: (parts.back
                ++ (parts.word ++ k.concat e))) = parts.name ++ (parts.front ++ parts.separator ::
                  (parts.back ++ (parts.word ++ k))) ++ [e] := by simp
            rw [hend, List.getLast?_concat] at hlast
            have he : e = ofChar ' ' := Option.some.inj hlast
            have hvalue := parts.value_chars e (by rw [hword]; simp)
            rw [he] at hvalue
            exact absurd hvalue (by decide)
        rw [hnil, List.append_nil]
  have hsplit : front ++ headerName ++ ofChar ':' :: (ofChar ' ' :: (scheme ++ [ofChar ' ']))
      = u ++ v := by
    rw [List.append_assoc]
    exact hu
  rcases List.append_eq_append_iff.mp hsplit with ⟨w, -, hw⟩ | ⟨w, hname, hw⟩
  · -- behind the name of the header there is no separator but the colon
    exfalso
    cases w with
    | nil =>
        obtain ⟨d, name, hname⟩ := List.exists_cons_of_ne_nil parts.name_ne_nil
        rw [List.nil_append, hends, hname] at hw
        obtain ⟨hd, -⟩ := List.cons_eq_cons.mp hw
        exact parts.not_mem_name (c := ofChar ':') (by decide)
          (by rw [hname, hd]; exact List.mem_cons_self)
    | cons d w =>
        obtain ⟨-, hrest⟩ := List.cons_eq_cons.mp hw
        have hmem : parts.separator ∈ ofChar ' ' :: (scheme ++ [ofChar ' ']) := by
          rw [hrest, hends]
          simp
        have hseparates := parts.separates
        rcases List.mem_cons.mp hmem with hsep | hmem
        · rw [hsep] at hseparates
          exact absurd hseparates (by decide)
        · rcases List.mem_append.mp hmem with hmem | hmem
          · rw [separator_of_isSchemeChar (hscheme _ hmem)] at hseparates
            cases hseparates
          · rw [List.mem_singleton.mp hmem] at hseparates
            exact absurd hseparates (by decide)
  · rw [hw] at hends
    obtain ⟨k, rfl, hrest⟩ := exists_append_of_not_mem hends (parts.not_mem_name (by decide))
    obtain ⟨k, rfl, hfront⟩ := exists_append_of_not_mem hrest.symm (parts.not_mem_front (by decide))
    cases k with
    | cons d k =>
        -- the colon of the header is behind the separator
        exfalso
        obtain ⟨-, hseparator⟩ := List.cons_eq_cons.mp hfront
        obtain ⟨k, rfl, hback⟩ := exists_append_of_not_mem hseparator.symm
          (parts.not_mem_back (by decide))
        refine parts.not_mem_word (c := ofChar ':') (by decide) (by decide) ?_
        rw [hback]
        simp
    | nil =>
        obtain ⟨-, hback⟩ := List.cons_eq_cons.mp hfront
        rw [List.append_nil] at hname
        have hblank : parts.front = [] := by
          have hlast : front ++ headerName = front ++ py "Authorizatio" ++ [ofChar 'n'] := by
            rw [List.append_assoc]
            rfl
          rw [hlast, ← List.append_assoc] at hname
          exact eq_nil_of_blank (by decide) hname parts.front_blank
        rw [hblank, List.append_nil] at hname hw
        obtain ⟨rfl, hheader⟩ := name_eq_header hname parts.name_mem
        refine ⟨rfl, ?_, parts.scheme_bearer hne hscheme hback.symm⟩
        rw [hw, hheader]
        rfl

end Header

end Watchtower
