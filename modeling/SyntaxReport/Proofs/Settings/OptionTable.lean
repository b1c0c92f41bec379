import SyntaxReport.Proofs.Settings.Reachable

/-! Which option tables describe settings. An entry is well formed if its name is known and its
value has the kind that the name is for. A table of well-formed entries stands for the settings in
which each field holds what the last entry for it writes, and is accepted if these are valid. The
rest is about spaces and digits: an indent that there is no room for, and a value that no message
can cite. -/
namespace SyntaxReport

theorem Sequence.findSome?_of_perm {α β : Type} {g : α → Option β} {xs ys : List α}
    (h : xs.Perm ys) (hone : xs.Pairwise fun a b => g a = none ∨ g b = none) :
    xs.findSome? g = ys.findSome? g := by
  induction h with
  | nil => rfl
  | cons x _ ih =>
    rw [List.findSome?_cons, List.findSome?_cons, ih hone.of_cons]
  | swap x y l =>
    have hxy : g y = none ∨ g x = none := List.rel_of_pairwise_cons hone List.mem_cons_self
    rcases hxy with hnone | hnone
    · simp only [List.findSome?_cons, hnone]
    · simp only [List.findSome?_cons, hnone]
  | trans h₁ _ ih₁ ih₂ =>
    have hmiddle := h₁.pairwise hone fun hab => hab.symm
    exact (ih₁ hone).trans (ih₂ hmiddle)

theorem Value.describe?_eq_none_iff (v : Value) : v.describe? = none ↔ v.isWritable = false := by
  unfold describe?
  cases v.isWritable <;> simp

namespace Settings

open Command (fieldOf)

/-- The name that a key stands for. -/
def optionName (key : Text) : Text :=
  Text.replaceChar '-' ['_'] key

def indentName : Text := "indent".toList

def Known (key : Text) : Prop :=
  optionName key = indentName ∨ ∃ f : Field, optionName key = f.name

/-- The name is known, and the value has the kind that it is for. -/
structure EntryWellFormed (e : Text × Value) : Prop where
  known : Known e.1
  indent : optionName e.1 = indentName → ∃ n, e.2 = .int n
  field : ∀ f : Field, optionName e.1 = f.name → f.Takes e.2

/-- An indent is a machine word, and no more spaces than a text can have. -/
def IndentFits [Memory] (e : Text × Value) : Prop :=
  ∀ n, optionName e.1 = indentName → e.2 = .int n → -Text.wordBound ≤ n ∧ n ≤ Memory.maxRun

/-- Whether a key is for a field. -/
def Writes (key : Text) (f : Field) : Prop :=
  optionName key = f.name ∨ optionName key = indentName ∧ f = .margin

/-- What an entry writes to a field. -/
def written? (f : Field) (e : Text × Value) : Option Value :=
  if optionName e.1 = f.name then some e.2
  else if optionName e.1 = indentName ∧ f = .margin then
    match e.2 with
    | .int n => some (.text (Text.spaces n))
    | _ => none
  else none

/-- Each field holds what the last entry for it writes, and its default if there is none. -/
def HoldsLast (c : Settings) (entries : List (Text × Value)) : Prop :=
  ∀ f, fieldOf (.ofSettings c) f = (entries.reverse.findSome? (written? f)).getD (fieldOf {} f)

/-- The first entry that is not well formed or has an indent that does not fit. -/
def FirstAtFault [Memory] (entries : List (Text × Value)) (e : Text × Value) : Prop :=
  ∃ before after, entries = before ++ e :: after ∧
    (∀ e' ∈ before, EntryWellFormed e' ∧ IndentFits e') ∧ ¬ (EntryWellFormed e ∧ IndentFits e)

/-- The option of a field under its own name. -/
def Field.option : Field → OptionField
  | .tabSize => .size .tabSize
  | .linesBefore => .size .linesBefore
  | .linesAfter => .size .linesAfter
  | .margin => .wording .margin
  | .marker => .wording .marker

theorem Field.name_ne_indentName (f : Field) : f.name ≠ indentName := by
  cases f <;> decide

theorem optionField?_of_indentName {key : Text} (h : optionName key = indentName) :
    optionField? key = some .indent := by
  have hkey : Text.replaceChar '-' ['_'] key = "indent".toList := h
  simp only [optionField?, hkey, if_true]

theorem optionField?_of_name {key : Text} {f : Field} (h : optionName key = f.name) :
    optionField? key = some f.option := by
  have hkey : Text.replaceChar '-' ['_'] key = f.name := h
  simp only [optionField?, hkey]
  cases f <;> rfl

theorem optionField?_of_not_known {key : Text} (h : ¬ Known key) : optionField? key = none := by
  have hne : ∀ f : Field, optionName key ≠ f.name := fun f hf => h (.inr ⟨f, hf⟩)
  have hindent : Text.replaceChar '-' ['_'] key ≠ "indent".toList := fun hn => h (.inl hn)
  have htab : Text.replaceChar '-' ['_'] key ≠ "tab_size".toList := hne .tabSize
  have hbefore : Text.replaceChar '-' ['_'] key ≠ "lines_before".toList := hne .linesBefore
  have hafter : Text.replaceChar '-' ['_'] key ≠ "lines_after".toList := hne .linesAfter
  have hmargin : Text.replaceChar '-' ['_'] key ≠ "prefix".toList := hne .margin
  have hmarker : Text.replaceChar '-' ['_'] key ≠ "marker".toList := hne .marker
  simp only [optionField?, hindent, htab, hbefore, hafter, hmargin, hmarker, if_false]

theorem optionChange_value {key : Text} {c : Change} (h : optionName key = c.field.name) :
    optionChange key c.value = .ok c := by
  have hfield := optionField?_of_name h
  cases c <;> simp only [optionChange, hfield, Change.field, Field.option, Change.value]

theorem exists_fault_of_not_takes {key : Text} {f : Field} {v : Value}
    (h : optionName key = f.name) (hv : ¬ f.Takes v) :
    ∃ fault, optionChange key v = .error fault ∧
      (fault.message? = none ↔ v.describe? = none) := by
  have hfield := optionField?_of_name h
  have hsize : ∀ change : Int → Change, f.option = .size change → ¬ (∃ n, v = .int n) →
      optionChange key v = .error (.notInt key v) := by
    intro change ho hne
    cases v with
    | int n => exact absurd ⟨n, rfl⟩ hne
    | _ => simp only [optionChange, hfield, ho]
  have hwording : ∀ change : Text → Change, f.option = .wording change → ¬ (∃ t, v = .text t) →
      optionChange key v = .error (.notText key v) := by
    intro change ho hne
    cases v with
    | text t => exact absurd ⟨t, rfl⟩ hne
    | _ => simp only [optionChange, hfield, ho]
  have hint : (OptionFault.notInt key v).message? = none ↔ v.describe? = none :=
    Option.map_eq_none_iff
  have htext : (OptionFault.notText key v).message? = none ↔ v.describe? = none :=
    Option.map_eq_none_iff
  cases f with
  | tabSize => exact ⟨_, hsize _ rfl hv, hint⟩
  | linesBefore => exact ⟨_, hsize _ rfl hv, hint⟩
  | linesAfter => exact ⟨_, hsize _ rfl hv, hint⟩
  | margin => exact ⟨_, hwording _ rfl hv, htext⟩
  | marker => exact ⟨_, hwording _ rfl hv, htext⟩

theorem ne_name_of_indentName {key : Text} (h : optionName key = indentName) (f : Field) :
    optionName key ≠ f.name := fun hf => f.name_ne_indentName (hf.symm.trans h)

theorem fieldOf_ofSettings_set (s : Settings) (c : Change) (f : Field) :
    fieldOf (.ofSettings (s.set c)) f =
      if f = c.field then c.value else fieldOf (.ofSettings s) f := by
  cases c <;> cases f <;> rfl

theorem eq_of_fieldOf {c c' : Settings}
    (h : ∀ f, fieldOf (.ofSettings c) f = fieldOf (.ofSettings c') f) : c = c' := by
  have hloose : Loose.ofSettings c = Loose.ofSettings c' := by
    have htab : Value.int c.tabSize = .int c'.tabSize := h .tabSize
    have hbefore : Value.int c.linesBefore = .int c'.linesBefore := h .linesBefore
    have hafter : Value.int c.linesAfter = .int c'.linesAfter := h .linesAfter
    have hmargin : Value.text c.margin = .text c'.margin := h .margin
    have hmarker : Value.text c.marker = .text c'.marker := h .marker
    rw [Loose.ofSettings, htab, hbefore, hafter, hmargin, hmarker, Loose.ofSettings]
  have hsome := congrArg Loose.toSettings? hloose
  rw [Loose.toSettings?_ofSettings, Loose.toSettings?_ofSettings] at hsome
  exact Option.some_inj.mp hsome

theorem writes_of_written? {f : Field} {e : Text × Value} (h : written? f e ≠ none) :
    Writes e.1 f := by
  unfold written? at h
  by_cases hname : optionName e.1 = f.name
  · exact .inl hname
  · rw [if_neg hname] at h
    by_cases hindent : optionName e.1 = indentName ∧ f = .margin
    · exact .inr hindent
    · rw [if_neg hindent] at h
      exact absurd rfl h

/-- The order of entries for different fields does not matter. -/
theorem holdsLast_of_perm {entries entries' : List (Text × Value)} (hperm : entries.Perm entries')
    (hone : entries.Pairwise fun a b => ∀ f, ¬ (Writes a.1 f ∧ Writes b.1 f)) {c : Settings}
    (h : HoldsLast c entries) : HoldsLast c entries' := by
  intro f
  have hpair : entries.Pairwise fun a b => written? f b = none ∨ written? f a = none := by
    refine hone.imp fun {a b} hab => ?_
    by_contra hboth
    obtain ⟨hb, ha⟩ := not_or.mp hboth
    exact hab f ⟨writes_of_written? ha, writes_of_written? hb⟩
  have hreverse : entries.reverse.Perm entries'.reverse :=
    entries.reverse_perm.trans (hperm.trans entries'.reverse_perm.symm)
  rw [h f, Sequence.findSome?_of_perm hreverse (List.pairwise_reverse.mpr hpair)]

section

variable [Memory]

/-- The change that one entry asks for, or what is wrong with the entry. -/
def entryChange (e : Text × Value) : Except OptionFault Change :=
  match indentError? e with
  | some cause => .error (.indentTooWide cause)
  | none => optionChange e.1 e.2

/-- The ways in which an entry is read. -/
inductive Asks : Text × Value → Except OptionFault Change → Prop
  | indent {key : Text} {n : Int} : optionName key = indentName →
      Text.countError? n = none → Asks (key, .int n) (.ok (.indent n))
  | tooWide {key : Text} {n : Int} {cause : CountError} : optionName key = indentName →
      Text.countError? n = some cause → Asks (key, .int n) (.error (.indentTooWide cause))
  | indentKind {key : Text} {v : Value} : optionName key = indentName →
      (∀ n, v ≠ .int n) → Asks (key, v) (.error (.indentNotInt v))
  | field {key : Text} {c : Change} : optionName key = c.field.name → Asks (key, c.value) (.ok c)
  | fieldKind {key : Text} {f : Field} {v : Value} {fault : OptionFault} :
      optionName key = f.name → ¬ f.Takes v → (fault.message? = none ↔ v.describe? = none) →
      Asks (key, v) (.error fault)
  | unknown {key : Text} {v : Value} : ¬ Known key → Asks (key, v) (.error (.unknown key))

theorem asks_of_indentName {key : Text} (h : optionName key = indentName) (v : Value) :
    Asks (key, v) (entryChange (key, v)) := by
  have hfield := optionField?_of_indentName h
  by_cases hint : ∃ n, v = .int n
  · obtain ⟨n, rfl⟩ := hint
    have herror : indentError? (key, .int n) = Text.countError? n := by
      simp only [indentError?, hfield]
    unfold entryChange
    rw [herror]
    cases hcount : Text.countError? n with
    | some cause => exact .tooWide h hcount
    | none =>
      simp only [optionChange, hfield]
      exact .indent h hcount
  · have hne : ∀ n, v ≠ .int n := fun n hn => hint ⟨n, hn⟩
    have hchange : entryChange (key, v) = .error (.indentNotInt v) := by
      cases v with
      | int n => exact absurd rfl (hne n)
      | _ => simp only [entryChange, indentError?, optionChange, hfield]
    rw [hchange]
    exact .indentKind h hne

/-- Only the key `indent` can ask for too many spaces. -/
theorem entryChange_of_ne_indent {key : Text} (h : optionField? key ≠ some .indent) (v : Value) :
    entryChange (key, v) = optionChange key v := by
  have hnone : indentError? (key, v) = none := by
    cases v with
    | int n => simp only [indentError?]
    | _ => rfl
  rw [entryChange, hnone]

theorem asks_of_name {key : Text} {f : Field} (h : optionName key = f.name) (v : Value) :
    Asks (key, v) (entryChange (key, v)) := by
  have hfield := optionField?_of_name h
  have hne : optionField? key ≠ some .indent := by
    rw [hfield]
    cases f <;> nofun
  rw [entryChange_of_ne_indent hne]
  by_cases hv : f.Takes v
  · obtain ⟨c, hc⟩ := hv.exists_change
    obtain ⟨hname, rfl⟩ := Prod.mk.inj hc
    have hkey : optionName key = c.field.name := h.trans hname.symm
    rw [optionChange_value hkey]
    exact .field hkey
  · obtain ⟨fault, hfault, hmessage⟩ := exists_fault_of_not_takes h hv
    rw [hfault]
    exact .fieldKind h hv hmessage

theorem entryChange_asks (e : Text × Value) : Asks e (entryChange e) := by
  obtain ⟨key, v⟩ := e
  by_cases hknown : Known key
  · rcases hknown with hindent | ⟨f, hname⟩
    · exact asks_of_indentName hindent v
    · exact asks_of_name hname v
  · have hfield := optionField?_of_not_known hknown
    have hne : optionField? key ≠ some .indent := by
      rw [hfield]
      nofun
    have hchange : optionChange key v = .error (.unknown key) := by
      simp only [optionChange, hfield]
    rw [entryChange_of_ne_indent hne, hchange]
    exact .unknown hknown

/-- An entry that is read is well formed, and writes the field of its change and no other. -/
theorem Asks.of_ok {e : Text × Value} {c : Change} (h : Asks e (.ok c)) :
    (EntryWellFormed e ∧ IndentFits e) ∧
      ∀ f, written? f e = if f = c.field then some c.value else none := by
  cases h with
  | indent hkey hcount =>
    rename_i key n
    have hne := ne_name_of_indentName hkey
    refine ⟨⟨⟨.inl hkey, fun _ => ⟨n, rfl⟩, fun f hf => absurd hf (hne f)⟩, ?_⟩, ?_⟩
    · intro n' _ hn'
      obtain rfl := Value.int.inj hn'
      exact (Text.countError?_eq_none_iff n).mp hcount
    · intro f
      rw [written?, if_neg (hne f)]
      by_cases hf : f = (Change.indent n).field
      · rw [if_pos ⟨hkey, hf⟩, if_pos hf]
        rfl
      · rw [if_neg fun h => hf h.2, if_neg hf]
  | field hkey =>
    rename_i key
    have hindent : optionName key ≠ indentName := by
      rw [hkey]
      exact c.field.name_ne_indentName
    refine ⟨⟨⟨.inr ⟨_, hkey⟩, fun h => absurd h hindent, ?_⟩, fun _ h => absurd h hindent⟩, ?_⟩
    · intro f hf
      obtain rfl : c.field = f := Field.name_injective (hkey.symm.trans hf)
      exact c.takes
    · intro f
      by_cases hf : f = c.field
      · rw [written?, hf, if_pos hkey, if_pos rfl]
      · have hname : optionName key ≠ f.name :=
          fun h => hf (Field.name_injective (h.symm.trans hkey))
        rw [written?, if_neg hname, if_neg fun h => hindent h.1, if_neg hf]

/-- An entry that is at fault is reported, unless the fault is in the number of spaces or the value
cannot be cited. -/
theorem Asks.of_error {e : Text × Value} {fault : OptionFault} (h : Asks e (.error fault)) :
    ¬ (EntryWellFormed e ∧ IndentFits e) ∧
      (fault.message? = none ↔ EntryWellFormed e ∨ Known e.1 ∧ e.2.isWritable = false) := by
  cases h with
  | tooWide hkey hcount =>
    rename_i key n cause
    have hne := ne_name_of_indentName hkey
    have hwell : EntryWellFormed (key, .int n) :=
      ⟨.inl hkey, fun _ => ⟨n, rfl⟩, fun f hf => absurd hf (hne f)⟩
    have hfits : ¬ IndentFits (key, .int n) := by
      intro hfits
      have hnone := (Text.countError?_eq_none_iff n).mpr (hfits n hkey rfl)
      rw [hcount] at hnone
      cases hnone
    exact ⟨fun h => hfits h.2, fun _ => .inl hwell, fun _ => rfl⟩
  | indentKind hkey hv =>
    rename_i key v
    have hill : ¬ EntryWellFormed (key, v) := by
      intro hwell
      obtain ⟨n, hn⟩ := hwell.indent hkey
      exact hv n hn
    have hmessage : (OptionFault.indentNotInt v).message? = none ↔ v.isWritable = false :=
      Option.map_eq_none_iff.trans v.describe?_eq_none_iff
    refine ⟨fun h => hill h.1, ?_⟩
    rw [hmessage]
    exact ⟨fun h => .inr ⟨.inl hkey, h⟩, fun h => (h.resolve_left hill).2⟩
  | fieldKind hkey hv hmessage =>
    rename_i key f v
    have hill : ¬ EntryWellFormed (key, v) := fun hwell => hv (hwell.field f hkey)
    refine ⟨fun h => hill h.1, ?_⟩
    rw [hmessage, v.describe?_eq_none_iff]
    exact ⟨fun h => .inr ⟨.inr ⟨f, hkey⟩, h⟩, fun h => (h.resolve_left hill).2⟩
  | unknown hunknown =>
    refine ⟨fun h => hunknown h.1.known, nofun, ?_⟩
    rintro (hwell | ⟨hknown, -⟩)
    · exact absurd hwell.known hunknown
    · exact absurd hknown hunknown

theorem exists_entryChange_eq_ok {e : Text × Value} (h : EntryWellFormed e ∧ IndentFits e) :
    ∃ c, entryChange e = .ok c := by
  have hasks := entryChange_asks e
  cases hchange : entryChange e with
  | ok c => exact ⟨c, rfl⟩
  | error fault =>
    rw [hchange] at hasks
    exact absurd h hasks.of_error.1

theorem asks_of_entryChange {e : Text × Value} {r : Except OptionFault Change}
    (h : entryChange e = r) : Asks e r := by
  rw [← h]
  exact entryChange_asks e

theorem mapM_entryChange (entries : List (Text × Value)) :
    entries.mapM entryChange =
      match entries.findSome? indentError? with
      | none => entries.mapM fun (key, value) => optionChange key value
      | some cause =>
        ((entries.takeWhile fun e => (indentError? e).isNone).mapM
          fun (key, value) => optionChange key value) >>=
            fun _ => .error (.indentTooWide cause) := by
  induction entries with
  | nil => rfl
  | cons e rest ih =>
    rw [List.mapM_cons, List.findSome?_cons]
    cases herror : indentError? e with
    | some cause =>
      have htake : (e :: rest).takeWhile (fun e => (indentError? e).isNone) = [] := by
        simp [herror]
      simp only [entryChange, herror, htake]
      rfl
    | none =>
      have htake : (e :: rest).takeWhile (fun e => (indentError? e).isNone) =
          e :: rest.takeWhile fun e => (indentError? e).isNone := by
        simp [herror]
      rw [ih, htake]
      simp only [entryChange, herror]
      -- the entry is read first, whether or not an indent behind it is too wide
      cases hrest : rest.findSome? indentError? with
      | none => simp only [List.mapM_cons]
      | some cause =>
        simp only [List.mapM_cons, bind_assoc]
        cases optionChange e.1 e.2 with
        | error fault => rfl
        | ok c => simp

/-- A table is read entry by entry, and the settings are checked at the end. -/
theorem ofOptionTable_eq (entries : List (Text × Value)) :
    ofOptionTable entries =
      entries.mapM entryChange >>= fun changes => (build changes).mapError .rejected := by
  rw [ofOptionTable, mapM_entryChange]
  cases entries.findSome? indentError? with
  | none => rfl
  | some cause => simp only [bind_assoc, Outcome.error_bind]

theorem fieldOf_setAll {entries : List (Text × Value)} {changes : List Change}
    (h : List.Forall₂ (fun e c => entryChange e = .ok c) entries changes) (s : Settings)
    (f : Field) :
    fieldOf (.ofSettings (s.setAll changes)) f =
      (entries.reverse.findSome? (written? f)).getD (fieldOf (.ofSettings s) f) := by
  induction h generalizing s with
  | nil => rfl
  | @cons e c entries changes hc _ ih =>
    have hwritten := (asks_of_entryChange hc).of_ok.2 f
    -- the first change counts only for a field that no later entry writes
    have hset : fieldOf (.ofSettings (s.set c)) f =
        (written? f e).getD (fieldOf (.ofSettings s) f) := by
      rw [fieldOf_ofSettings_set, hwritten]
      split <;> rfl
    rw [setAll, List.foldl_cons, ← setAll, ih, List.reverse_cons, List.findSome?_append,
      Option.getD_or, hset]
    congr 1
    rw [List.findSome?_singleton]

/-- The settings that a table describes before they are checked. -/
theorem holdsLast_iff {entries : List (Text × Value)} {changes : List Change}
    (h : List.Forall₂ (fun e c => entryChange e = .ok c) entries changes) (c : Settings) :
    HoldsLast c entries ↔ c = setAll {} changes := by
  have hfields := fieldOf_setAll h {}
  constructor
  · intro hlast
    exact eq_of_fieldOf fun f => (hlast f).trans (hfields f).symm
  · rintro rfl
    exact hfields

theorem ofOptionTable_eq_ok_iff (entries : List (Text × Value)) (c : Settings) :
    ofOptionTable entries = .ok c ↔
      (∀ e ∈ entries, EntryWellFormed e ∧ IndentFits e) ∧ HoldsLast c entries ∧ c.Valid := by
  rw [ofOptionTable_eq]
  constructor
  · intro h
    obtain ⟨changes, hchanges, hbuild⟩ := Outcome.exists_of_bind_eq_ok h
    have hread := Outcome.forall₂_of_mapM_eq_ok hchanges
    obtain ⟨rfl, hvalid⟩ := (check_eq_ok_iff _ _).mp (Outcome.mapError_eq_ok_iff.mp hbuild)
    refine ⟨?_, (holdsLast_iff hread _).mpr rfl, hvalid⟩
    intro e he
    obtain ⟨c, -, hc⟩ := Outcome.exists_mem_of_forall₂ hread.flip he
    exact (asks_of_entryChange hc).of_ok.1
  · rintro ⟨hentries, hlast, hvalid⟩
    obtain ⟨changes, hchanges⟩ := Outcome.exists_mapM_eq_ok
      fun e he => exists_entryChange_eq_ok (hentries e he)
    have hread := Outcome.forall₂_of_mapM_eq_ok hchanges
    obtain rfl := (holdsLast_iff hread c).mp hlast
    rw [hchanges, Outcome.ok_bind, Outcome.mapError_eq_ok_iff]
    exact (check_eq_ok_iff _ _).mpr ⟨rfl, hvalid⟩

theorem exists_firstAtFault {entries : List (Text × Value)} {fault : OptionFault}
    (h : entries.mapM entryChange = .error fault) :
    ∃ e, FirstAtFault entries e ∧ entryChange e = .error fault := by
  obtain ⟨before, e, after, rfl, hbefore, he⟩ := Outcome.mapM_eq_error_iff.mp h
  refine ⟨e, ⟨before, after, rfl, ?_, (asks_of_entryChange he).of_error.1⟩, he⟩
  intro e' he'
  obtain ⟨c, hc⟩ := hbefore e' he'
  exact (asks_of_entryChange hc).of_ok.1

theorem exists_mapM_error_of_firstAtFault {entries : List (Text × Value)} {e : Text × Value}
    (h : FirstAtFault entries e) :
    ∃ fault, entryChange e = .error fault ∧ entries.mapM entryChange = .error fault := by
  obtain ⟨before, after, rfl, hbefore, he⟩ := h
  cases hchange : entryChange e with
  | ok c => exact absurd (asks_of_entryChange hchange).of_ok.1 he
  | error fault =>
    have hread : ∀ e' ∈ before, ∃ c, entryChange e' = .ok c :=
      fun e' he' => exists_entryChange_eq_ok (hbefore e' he')
    exact ⟨fault, rfl, Outcome.mapM_eq_error_iff.mpr ⟨before, e, after, rfl, hread, hchange⟩⟩

/-- The fault that is reported is that of the first entry at fault, and without such an entry it is
a broken rule. -/
theorem message?_eq_none_iff {entries : List (Text × Value)} {fault : OptionFault}
    (h : ofOptionTable entries = .error fault) :
    fault.message? = none ↔ ∃ e, FirstAtFault entries e ∧
      (EntryWellFormed e ∨ Known e.1 ∧ e.2.isWritable = false) := by
  rw [ofOptionTable_eq] at h
  constructor
  · intro hmessage
    cases hchanges : entries.mapM entryChange with
    | error fault' =>
      rw [hchanges, Outcome.error_bind] at h
      obtain rfl : fault' = fault := Except.error.inj h
      obtain ⟨e, hfirst, he⟩ := exists_firstAtFault hchanges
      exact ⟨e, hfirst, (asks_of_entryChange he).of_error.2.mp hmessage⟩
    | ok changes =>
      rw [hchanges, Outcome.ok_bind] at h
      cases hbuild : build changes with
      | ok c =>
        rw [hbuild] at h
        cases h
      | error broken =>
        -- a broken rule always has a message
        rw [hbuild, Outcome.mapError_error] at h
        obtain rfl : .rejected broken = fault := Except.error.inj h
        cases hmessage
  · rintro ⟨e, hfirst, hsilent⟩
    obtain ⟨fault', he, hchanges⟩ := exists_mapM_error_of_firstAtFault hfirst
    rw [hchanges, Outcome.error_bind] at h
    obtain rfl : fault' = fault := Except.error.inj h
    exact (asks_of_entryChange he).of_error.2.mpr hsilent

theorem ofOptionTable_ok_of_perm {entries entries' : List (Text × Value)}
    (hperm : entries.Perm entries')
    (hone : entries.Pairwise fun a b => ∀ f, ¬ (Writes a.1 f ∧ Writes b.1 f)) {c : Settings}
    (h : ofOptionTable entries = .ok c) : ofOptionTable entries' = .ok c := by
  obtain ⟨hentries, hlast, hvalid⟩ := (ofOptionTable_eq_ok_iff entries c).mp h
  apply (ofOptionTable_eq_ok_iff entries' c).mpr
  exact ⟨fun e he => hentries e (hperm.mem_iff.mpr he), holdsLast_of_perm hperm hone hlast, hvalid⟩

/-- A table is accepted exactly if its entries are well formed, its indents fit, and the settings in
which the last entry for a field wins are valid; these are then the result. A table that is not
accepted is reported by a message, unless the first entry at fault asks for too many spaces or has a
value that cannot be cited. And the order of entries for different fields does not matter. -/
theorem ofOptionTable_accepts (entries : List (Text × Value)) :
    (∀ c, ofOptionTable entries = .ok c ↔
      (∀ e ∈ entries, EntryWellFormed e ∧ IndentFits e) ∧ HoldsLast c entries ∧ c.Valid) ∧
    (∀ fault, ofOptionTable entries = .error fault →
      (fault.message? = none ↔ ∃ e, FirstAtFault entries e ∧
        (EntryWellFormed e ∨ Known e.1 ∧ e.2.isWritable = false))) ∧
    ∀ entries', entries.Perm entries' →
      entries.Pairwise (fun a b => ∀ f, ¬ (Writes a.1 f ∧ Writes b.1 f)) →
      ∀ c, ofOptionTable entries = .ok c ↔ ofOptionTable entries' = .ok c := by
  refine ⟨ofOptionTable_eq_ok_iff entries, fun fault => message?_eq_none_iff, ?_⟩
  intro entries' hperm hone c
  have hone' := hperm.pairwise hone fun hab f hf => hab f hf.symm
  exact ⟨ofOptionTable_ok_of_perm hperm hone, ofOptionTable_ok_of_perm hperm.symm hone'⟩

end

/-- Two entries for different fields. -/
def tabAndIndent : List (Text × Value) :=
  [("tab-size".toList, .int 4), ("indent".toList, .int 2)]

theorem ofOptionTable_accepts_reversed :
    ofOptionTable tabAndIndent = .ok { tabSize := 4, margin := [' ', ' '] } ∧
      ofOptionTable tabAndIndent.reverse = .ok { tabSize := 4, margin := [' ', ' '] } ∧
      (∀ e ∈ tabAndIndent, EntryWellFormed e ∧ IndentFits e) ∧
      HoldsLast { tabSize := 4, margin := [' ', ' '] } tabAndIndent := by
  have hread : ofOptionTable tabAndIndent = .ok { tabSize := 4, margin := [' ', ' '] } := rfl
  have hone : tabAndIndent.Pairwise fun a b => ∀ f, ¬ (Writes a.1 f ∧ Writes b.1 f) := by
    apply List.pairwise_pair.mpr
    intro f
    rw [Writes, Writes]
    cases f <;> decide
  obtain ⟨haccepted, -, horder⟩ := ofOptionTable_accepts tabAndIndent
  obtain ⟨hentries, hlast, -⟩ := (haccepted _).mp hread
  have hreversed := (horder _ tabAndIndent.reverse_perm.symm hone _).mp hread
  exact ⟨hread, hreversed, hentries, hlast⟩

/-- A table with an indent that is no machine word. -/
def wideIndent : List (Text × Value) :=
  [("indent".toList, .int Text.wordBound)]

/-- A table with a number of more digits than can be written in place of a text. -/
def longNumber : List (Text × Value) :=
  [("prefix".toList, .int (Nat.pow 10 Text.maxDigits))]

/-- All is well with the entry of the first table but the number of spaces, and it is refused; the
second table is refused without a message. -/
theorem ofOptionTable_refuses_silently :
    ((∀ e ∈ wideIndent, EntryWellFormed e) ∧
      (∃ c, HoldsLast c wideIndent ∧ c.Valid) ∧ (∀ c, ofOptionTable wideIndent ≠ .ok c)) ∧
    ∃ fault, ofOptionTable longNumber = .error fault ∧ fault.message? = none := by
  have hindent : optionName "indent".toList = indentName := by decide
  refine ⟨⟨?_, ⟨{ margin := Text.spaces Text.wordBound }, ?_, ?_⟩, ?_⟩, ?_⟩
  · intro e he
    obtain rfl := List.mem_singleton.mp he
    have hne := ne_name_of_indentName hindent
    exact ⟨.inl hindent, fun _ => ⟨_, rfl⟩, fun f hf => absurd hf (hne f)⟩
  · intro f
    cases f <;> rfl
  · have hunbroken : ∀ c ∈ Text.spaces Text.wordBound, c = ' ' := fun c => List.eq_of_mem_replicate
    refine ⟨by decide, by decide, by decide, rfl, ?_, ?_⟩
    · exact fun h => absurd (hunbroken _ h) (by decide)
    · exact fun h => absurd (hunbroken _ h) (by decide)
  · intro c hc
    have hrefused : ofOptionTable wideIndent = .error (.indentTooWide .notAWord) := rfl
    rw [hrefused] at hc
    cases hc
  · refine ⟨.notText "prefix".toList (.int (Nat.pow 10 Text.maxDigits)), rfl, ?_⟩
    have hlong : (Value.int (Nat.pow 10 Text.maxDigits)).isWritable = false := by
      rw [Value.isWritable, Text.isWritable, Int.natAbs_natCast]
      exact decide_eq_false (Nat.lt_irrefl _)
    -- the number must not be evaluated here
    have hmessage (v : Value) (hv : v.isWritable = false) :
        (OptionFault.notText "prefix".toList v).message? = none :=
      Option.map_eq_none_iff.mpr (v.describe?_eq_none_iff.mpr hv)
    exact hmessage _ hlong

end Settings

end SyntaxReport
