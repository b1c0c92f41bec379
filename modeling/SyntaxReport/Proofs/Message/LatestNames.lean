import Mathlib.Data.Finset.Card
import SyntaxReport.Message.Wording

/-! What a vocabulary shows after any history of names. The entries stay in strictly ascending order
of their kinds, so that a vocabulary is determined by what it answers for each kind; and it answers
with the name given last. All that can be observed follows from this, and two histories that agree
in the last name of each kind leave the same vocabulary. -/
namespace SyntaxReport.Vocabulary

/-- The vocabulary after some names have been added, one after the other. -/
def addAll (v : Vocabulary) (given : List (Int × TokenName)) : Vocabulary :=
  given.foldl (fun v (kind, name) => v.add kind name) v

/-- The name given last for a kind. The end of input is named before all others. -/
def latestName? (given : List (Int × TokenName)) (kind : Int) : Option TokenName :=
  (base.entries ++ given).reverse.lookup kind

/-- The entries are in strictly ascending order of their kinds. -/
def Ascending (entries : List (Int × TokenName)) : Prop :=
  entries.Pairwise fun a b => a.1 < b.1

section Insert

variable {entries : List (Int × TokenName)} {kind : Int} {name : TokenName}

theorem eq_or_mem_of_mem_insert {e : Int × TokenName} (h : e ∈ insert kind name entries) :
    e = (kind, name) ∨ e ∈ entries := by
  induction entries with
  | nil => exact .inl (List.mem_singleton.mp h)
  | cons e' rest ih =>
    obtain ⟨k, n⟩ := e'
    rw [insert] at h
    by_cases hlt : kind < k
    · rw [if_pos hlt] at h
      exact List.mem_cons.mp h
    rw [if_neg hlt] at h
    by_cases heq : kind = k
    · rw [if_pos heq] at h
      exact (List.mem_cons.mp h).imp_right (List.mem_cons_of_mem _)
    · rw [if_neg heq] at h
      rcases List.mem_cons.mp h with he | hrest
      · exact .inr (List.mem_cons.mpr (.inl he))
      · exact (ih hrest).imp_right (List.mem_cons_of_mem _)

theorem ascending_insert (h : Ascending entries) : Ascending (insert kind name entries) := by
  induction entries with
  | nil => exact List.pairwise_singleton _ _
  | cons e rest ih =>
    obtain ⟨k, n⟩ := e
    obtain ⟨hfirst, hrest⟩ := List.pairwise_cons.mp h
    rw [insert]
    by_cases hlt : kind < k
    · -- the new kind is below the first one, and so below all
      rw [if_pos hlt]
      apply List.pairwise_cons.mpr
      refine ⟨?_, h⟩
      intro e he
      rcases List.mem_cons.mp he with rfl | he
      · exact hlt
      · exact hlt.trans (hfirst e he)
    rw [if_neg hlt]
    by_cases heq : kind = k
    · rw [if_pos heq]
      apply List.pairwise_cons.mpr
      refine ⟨?_, hrest⟩
      rw [heq]
      exact hfirst
    · rw [if_neg heq]
      apply List.pairwise_cons.mpr
      refine ⟨?_, ih hrest⟩
      intro e he
      rcases eq_or_mem_of_mem_insert he with rfl | he
      · exact lt_of_le_of_ne (not_lt.mp hlt) (Ne.symm heq)
      · exact hfirst e he

theorem lookup_cons_ite (k : Int) :
    ((kind, name) :: entries).lookup k = if k = kind then some name else entries.lookup k := by
  rw [List.lookup_cons]
  by_cases hk : k = kind
  · rw [if_pos hk, beq_iff_eq.mpr hk]
  · rw [if_neg hk, beq_false_of_ne hk]

theorem lookup_insert (k : Int) :
    (insert kind name entries).lookup k = if k = kind then some name else entries.lookup k := by
  induction entries with
  | nil => exact lookup_cons_ite k
  | cons e rest ih =>
    obtain ⟨k', n⟩ := e
    rw [insert]
    by_cases hlt : kind < k'
    · rw [if_pos hlt]
      exact lookup_cons_ite k
    rw [if_neg hlt]
    by_cases heq : kind = k'
    · rw [if_pos heq, lookup_cons_ite, lookup_cons_ite, heq]
      by_cases hk : k = k'
      · rw [if_pos hk, if_pos hk]
      · rw [if_neg hk, if_neg hk, if_neg hk]
    · -- the first entry stays in front, and it is for another kind
      rw [if_neg heq, lookup_cons_ite, lookup_cons_ite, ih]
      by_cases hk : k = k'
      · rw [if_pos hk, if_neg (hk.trans_ne (Ne.symm heq)), if_pos hk]
      · rw [if_neg hk, if_neg hk]

end Insert

section AddAll

variable {v : Vocabulary} (given : List (Int × TokenName))

theorem name?_add (v : Vocabulary) (kind : Int) (name : TokenName) (k : Int) :
    (v.add kind name).name? k = if k = kind then some name else v.name? k :=
  lookup_insert k

theorem ascending_addAll (h : Ascending v.entries) : Ascending (v.addAll given).entries := by
  induction given generalizing v with
  | nil => exact h
  | cons e rest ih => exact ih (ascending_insert h)

/-- Of all the names for a kind only the last one is left, and the first vocabulary is asked if
there is none. -/
theorem name?_addAll (v : Vocabulary) (k : Int) :
    (v.addAll given).name? k = (given.reverse.lookup k).or (v.name? k) := by
  induction given generalizing v with
  | nil => rfl
  | cons e rest ih =>
    obtain ⟨kind, name⟩ := e
    have hstep : (v.addAll ((kind, name) :: rest)).name? k =
        (rest.reverse.lookup k).or ((v.add kind name).name? k) := ih (v.add kind name)
    rw [hstep, name?_add, List.reverse_cons, List.lookup_append, Option.or_assoc, lookup_cons_ite]
    by_cases hk : k = kind
    · rw [if_pos hk, if_pos hk, Option.some_or]
    · rw [if_neg hk, if_neg hk, List.lookup_nil, Option.none_or]

theorem addAll_ofNames (names adds : List (Int × TokenName)) :
    (ofNames names).addAll adds = base.addAll (names ++ adds) := by
  rw [addAll, addAll, List.foldl_append]
  rfl

theorem name?_addAll_base (k : Int) : (base.addAll given).name? k = latestName? given k := by
  rw [name?_addAll, latestName?, List.reverse_append, List.lookup_append]
  rfl

end AddAll

theorem mem_entries_iff {v : Vocabulary} (h : Ascending v.entries) {kind : Int} {name : TokenName} :
    (kind, name) ∈ v.entries ↔ v.name? kind = some name := by
  unfold name?
  obtain ⟨entries⟩ := v
  induction entries with
  | nil => simp
  | cons e rest ih =>
    obtain ⟨k, n⟩ := e
    obtain ⟨hfirst, hrest⟩ := List.pairwise_cons.mp h
    have hmem : (kind, name) ∈ rest ↔ rest.lookup kind = some name := ih hrest
    rw [lookup_cons_ite, List.mem_cons, hmem, Prod.mk.injEq]
    by_cases hk : kind = k
    · -- no later entry is for the kind of the first one
      have hnone : ¬ rest.lookup kind = some name := by
        intro hlookup
        have hlt : k < kind := hfirst (kind, name) (hmem.mpr hlookup)
        omega
      rw [if_pos hk, Option.some.injEq]
      constructor
      · rintro (⟨-, hname⟩ | hlookup)
        · exact hname.symm
        · exact absurd hlookup hnone
      · intro hname
        exact .inl ⟨hk, hname.symm⟩
    · rw [if_neg hk]
      exact or_iff_right fun h => hk h.1

/-- The names of the kinds determine the entries, since their order is fixed. -/
theorem eq_of_name?_eq {v w : Vocabulary} (hv : Ascending v.entries) (hw : Ascending w.entries)
    (h : ∀ kind, v.name? kind = w.name? kind) : v = w := by
  have hperm : v.entries.Perm w.entries := by
    apply (List.perm_ext_iff_of_nodup ?_ ?_).mpr
    · rintro ⟨kind, name⟩
      rw [mem_entries_iff hv, mem_entries_iff hw, h]
    · exact hv.imp fun hlt heq => absurd (congrArg Prod.fst heq) (by omega)
    · exact hw.imp fun hlt heq => absurd (congrArg Prod.fst heq) (by omega)
  -- a permutation that keeps a strict order is no change
  have hentries : v.entries = w.entries := by
    apply hperm.eq_of_pairwise ?_ hv hw
    intro a b _ _ hab hba
    omega
  obtain ⟨entries⟩ := v
  obtain ⟨entries'⟩ := w
  exact congrArg Vocabulary.mk hentries

theorem isSome_lookup_iff (entries : List (Int × TokenName)) (kind : Int) :
    (entries.lookup kind).isSome = true ↔ kind ∈ entries.map (·.1) := by
  rw [List.lookup_isSome_iff, List.mem_map]
  constructor
  · rintro ⟨e, he, hk⟩
    exact ⟨e, he, (beq_iff_eq.mp hk).symm⟩
  · rintro ⟨e, he, hk⟩
    exact ⟨e, he, beq_iff_eq.mpr hk.symm⟩

theorem isSome_latestName?_iff (given : List (Int × TokenName)) (kind : Int) :
    (latestName? given kind).isSome = true ↔
      kind = Token.eofKind ∨ kind ∈ given.map (·.1) := by
  have hkinds : (base.entries ++ given).map (·.1) = Token.eofKind :: given.map (·.1) := rfl
  rw [latestName?, isSome_lookup_iff, List.map_reverse, List.mem_reverse, hkinds, List.mem_cons]

/-- The largest kind is one of the kinds, and none is larger. -/
theorem max?_kinds (v : Vocabulary) :
    (Token.eofKind :: v.entries.map (·.1)).max? = some v.maxKind := by
  rw [List.max?_cons', List.foldl_map]
  rfl

theorem eq_of_map_literal_symbol {x y : Option TokenName}
    (hliteral : x.map (·.literal) = y.map (·.literal))
    (hsymbol : x.map (·.symbol) = y.map (·.symbol)) : x = y := by
  cases x with
  | none => exact (Option.map_eq_none_iff.mp hliteral.symm).symm
  | some n =>
    cases y with
    | none => cases hliteral
    | some m =>
      obtain ⟨literal, symbol⟩ := n
      obtain rfl : literal = m.literal := Option.some.inj hliteral
      obtain rfl : symbol = m.symbol := Option.some.inj hsymbol
      rfl

/-- What a vocabulary shows of the names it was given. -/
structure ShowsLatest (v : Vocabulary) (given : List (Int × TokenName)) : Prop where
  contains_eof : v.contains Token.eofKind = true
  contains_iff : ∀ kind, v.contains kind = true ↔
    kind = Token.eofKind ∨ kind ∈ given.map (·.1)
  literal : ∀ kind, v.literal? kind = (latestName? given kind).map (·.literal)
  symbol : ∀ kind, v.symbol? kind = (latestName? given kind).map (·.symbol)
  display : ∀ kind, v.display? kind = (latestName? given kind).map (·.literal)
  size : v.size = (Insert.insert Token.eofKind (given.map (·.1)).toFinset).card
  contains_maxKind : v.contains v.maxKind = true
  le_maxKind : ∀ kind, v.contains kind = true → kind ≤ v.maxKind
  describe : ∃ entries, Ascending entries ∧
    (∀ kind name, (kind, name) ∈ entries ↔ latestName? given kind = some name) ∧
    v.describe = "Vocabulary[".toList ++ Text.joined [','] (entries.map describeEntry) ++ [']']

/-- Nothing that can be asked of two vocabularies, and no message that uses them, tells them
apart. -/
structure Indistinguishable (v w : Vocabulary) : Prop where
  contains : ∀ kind, v.contains kind = w.contains kind
  literal : ∀ kind, v.literal? kind = w.literal? kind
  symbol : ∀ kind, v.symbol? kind = w.symbol? kind
  display : ∀ kind, v.display? kind = w.display? kind
  size : v.size = w.size
  maxKind : v.maxKind = w.maxKind
  describe : v.describe = w.describe
  token : ∀ t, Message.tokenText (some v) t = Message.tokenText (some w) t
  kind : ∀ k, Message.kindText (some v) k = Message.kindText (some w) k
  expected : ∀ items, Message.expectedText (some v) items = Message.expectedText (some w) items
  mismatched : ∀ found items,
    Message.mismatchedInput found items (some v) = Message.mismatchedInput found items (some w)
  missing : ∀ items near,
    Message.missingToken items near (some v) = Message.missingToken items near (some w)
  extraneous : ∀ found items,
    Message.extraneousInput found items (some v) = Message.extraneousInput found items (some w)
  written : ∀ message found items,
    Message.written? message found items (some v) = Message.written? message found items (some w)

theorem ascending_addAll_base (given : List (Int × TokenName)) :
    Ascending (base.addAll given).entries :=
  ascending_addAll given (List.pairwise_singleton _ _)

theorem size_addAll_base (given : List (Int × TokenName)) :
    (base.addAll given).size = (Insert.insert Token.eofKind (given.map (·.1)).toFinset).card := by
  have hascending := ascending_addAll_base given
  -- the entries are as many as their kinds, and the kinds are those given
  have hnodup : ((base.addAll given).entries.map (·.1)).Nodup :=
    List.pairwise_map.mpr (hascending.imp fun hlt => hlt.ne)
  have hkinds : ((base.addAll given).entries.map (·.1)).toFinset =
      Insert.insert Token.eofKind (given.map (·.1)).toFinset := by
    ext kind
    rw [List.mem_toFinset, ← isSome_lookup_iff, ← name?, name?_addAll_base,
      isSome_latestName?_iff, Finset.mem_insert, List.mem_toFinset]
  rw [← hkinds, List.toFinset_card_of_nodup hnodup, List.length_map, size]

theorem showsLatest_addAll_base (given : List (Int × TokenName)) :
    (base.addAll given).ShowsLatest given := by
  have hascending := ascending_addAll_base given
  have hname := name?_addAll_base given
  have hcontains (kind : Int) : (base.addAll given).contains kind = true ↔
      kind = Token.eofKind ∨ kind ∈ given.map (·.1) := by
    rw [contains, hname, isSome_latestName?_iff]
  have hliteral (kind : Int) :
      (base.addAll given).literal? kind = (latestName? given kind).map (·.literal) := by
    rw [literal?, hname]
  have hsymbol (kind : Int) :
      (base.addAll given).symbol? kind = (latestName? given kind).map (·.symbol) := by
    rw [symbol?, hname]
  -- the largest kind is the maximum of a list that begins with the end of input
  obtain ⟨hmem, hle⟩ := List.max?_eq_some_iff.mp (max?_kinds (base.addAll given))
  have heof : (base.addAll given).contains Token.eofKind = true := (hcontains _).mpr (.inl rfl)
  refine ⟨heof, hcontains, hliteral, hsymbol, hliteral, size_addAll_base given, ?_, ?_, ?_⟩
  · rcases List.mem_cons.mp hmem with hmax | hmax
    · rw [hmax]
      exact heof
    · exact (isSome_lookup_iff _ _).mpr hmax
  · intro kind hkind
    exact hle kind (List.mem_cons_of_mem _ ((isSome_lookup_iff _ kind).mp hkind))
  · refine ⟨_, hascending, ?_, rfl⟩
    intro kind name
    rw [mem_entries_iff hascending, hname]

/-- A vocabulary answers with the name given last for each kind and lists the kinds in ascending
order, whatever the history; and histories that agree in the last names are the ones that nothing
tells apart. -/
theorem addAll_shows_latest (names adds : List (Int × TokenName)) :
    ((ofNames names).addAll adds).ShowsLatest (names ++ adds) ∧
      ∀ names' adds' : List (Int × TokenName),
        (∀ kind, latestName? (names ++ adds) kind = latestName? (names' ++ adds') kind) ↔
          Indistinguishable ((ofNames names).addAll adds) ((ofNames names').addAll adds') := by
  rw [addAll_ofNames]
  refine ⟨showsLatest_addAll_base _, ?_⟩
  intro names' adds'
  rw [addAll_ofNames]
  constructor
  · intro hlatest
    have heq : base.addAll (names ++ adds) = base.addAll (names' ++ adds') := by
      apply eq_of_name?_eq (ascending_addAll_base _) (ascending_addAll_base _)
      intro kind
      rw [name?_addAll_base, name?_addAll_base, hlatest]
    rw [heq]
    constructor <;> intros <;> rfl
  · intro hsame kind
    have hliteral := hsame.literal kind
    have hsymbol := hsame.symbol kind
    rw [literal?, literal?, name?_addAll_base, name?_addAll_base] at hliteral
    rw [symbol?, symbol?, name?_addAll_base, name?_addAll_base] at hsymbol
    exact eq_of_map_literal_symbol hliteral hsymbol

end SyntaxReport.Vocabulary
