import CubeClient.Proofs.Deferred.Filling
import CubeClient.Proofs.Metadata.Rows

/-!
# Rows that refer to dimensions

The rows of a measure group's dimensions make no objects. Each refers to a dimension of the cube, by
its unique name or, if nobody has that unique name, as the first with that short name. What such
rows come to depends on nothing but the rows and the dimensions of the cube (`ReferringFill`): each
dimension that a row refers to is listed once, where it comes first.

A row that gives the unique name of a dimension that is listed already is left out. A row that gives
its short name is not, and as the list takes no unique name twice, such a row ends the attempt
(`Refused.again`).
-/

namespace CubeClient

open CubeClient.Deferred CubeClient.Xml

/-! ## What a row refers to -/

variable {label : String} {dims list : NamedList MetadataObject} {rows : List Element}
  {row : Element} {d e : MetadataObject}

/-- The name that a row gives. -/
abbrev givenName (row : Element) : Except ClientError String :=
  Field.string row "DIMENSION_UNIQUE_NAME"

/-- A row gives the short name of a dimension, which is nobody's unique name, and the dimension is
the first of that short name. -/
structure RefersShortly (dims : NamedList MetadataObject) (row : Element) (d : MetadataObject) :
    Prop where
  given : givenName row = .ok (Named.name d)
  free : Named.name d ∉ dims.uniqueNames
  first : ∃ before after, dims.toList = before ++ d :: after ∧
    ∀ other ∈ before, Named.name other ≠ Named.name d

/-- A row refers to a dimension, by its unique name or by its short name. -/
def Refers (dims : NamedList MetadataObject) (row : Element) (d : MetadataObject) : Prop :=
  (d ∈ dims.toList ∧ givenName row = .ok (Named.uniqueName d)) ∨ RefersShortly dims row d

/-- The dimension that a row refers to. -/
def referent? (dims : NamedList MetadataObject) (row : Element) : Option MetadataObject :=
  (givenName row).toOption.bind dims.get?

/-- A row has a referent if it gives a name under which the cube has a dimension. -/
theorem referent?_eq_some_iff : referent? dims row = some d ↔ Refers dims row d := by
  unfold referent? Refers
  cases hgiven : givenName row with
  | error e =>
    simp only [Except.toOption, Option.bind_none, reduceCtorEq, and_false, false_or, false_iff]
    intro h
    rw [h.given] at hgiven
    cases hgiven
  | ok name =>
    simp only [Except.toOption, Option.bind_some, Except.ok.injEq, NamedList.get?_eq_some_iff]
    constructor
    · rintro (⟨hd, rfl⟩ | ⟨hfree, rfl, hfirst⟩)
      · exact .inl ⟨hd, rfl⟩
      · exact .inr ⟨hgiven, hfree, hfirst⟩
    · rintro (⟨hd, rfl⟩ | h)
      · exact .inl ⟨hd, rfl⟩
      · obtain rfl : name = Named.name d := Except.ok.inj (hgiven.symm.trans h.given)
        exact .inr ⟨h.free, rfl, h.first⟩

theorem mem_of_referent? (h : referent? dims row = some d) : d ∈ dims.toList := by
  obtain ⟨name, -, hget⟩ := Option.bind_eq_some_iff.mp h
  exact NamedList.mem_of_get? hget

/-! ## What the rows of a group come to -/

/-- The dimensions that rows refer to, in the order in which they come first. -/
structure Referred (dims : NamedList MetadataObject) (rows : List Element)
    (list : NamedList MetadataObject) : Prop where
  distinct : list.toList.Nodup
  shared : ∀ {d : MetadataObject}, d ∈ list.toList → d ∈ dims.toList
  mem_iff : ∀ {d : MetadataObject}, d ∈ list.toList ↔ ∃ row ∈ rows, Refers dims row d
  /-- Of two dimensions, a row refers to the one before any refers to the other. -/
  ordered : list.toList.Pairwise fun d other =>
    ∃ before row after, rows = before ++ row :: after ∧ Refers dims row d ∧
      ∀ earlier ∈ before ++ [row], ¬ Refers dims earlier other

/-- Gathering what rows refer to leaves each dimension once, in the order of its first row. -/
theorem referred_of_gathers (h : Gathers (referent? dims) rows list.toList) :
    Referred dims rows list where
  distinct := list.nodup.of_map
  shared hd := by
    obtain ⟨row, -, hrow⟩ := h.exists_row hd
    exact mem_of_referent? hrow
  mem_iff {d} := by
    simp only [← referent?_eq_some_iff]
    constructor
    · exact h.exists_row
    · rintro ⟨row, hrow, hreferent⟩
      have hnames : Named.uniqueName d ∈ list.toList.map Named.uniqueName :=
        h.mem_names_iff.mpr ⟨row, hrow, brings_iff.mpr ⟨d, hreferent, rfl⟩⟩
      obtain ⟨other, hother, hname⟩ := List.mem_map.mp hnames
      obtain ⟨old, -, hold⟩ := h.exists_row hother
      rwa [← NamedList.eq_of_uniqueName (mem_of_referent? hold) (mem_of_referent? hreferent) hname]
  ordered := by
    simp only [← referent?_eq_some_iff]
    exact h.comes_before

/-- Why a row behind others is refused: it gives no name, or gives the short name of a dimension
that is listed already. -/
inductive Refused (label : String) (dims : NamedList MetadataObject) (before : List Element)
    (row : Element) : ClientError → Prop
  | nameless {e : ClientError} (h : givenName row = .error e) : Refused label dims before row e
  | again {d : MetadataObject} {earlier : Element} (h : RefersShortly dims row d)
      (hearlier : earlier ∈ before) (hd : Refers dims earlier d) :
      Refused label dims before row (.duplicateName label (Named.uniqueName d))

/-- No row is refused. -/
def Admitted (label : String) (dims : NamedList MetadataObject) (rows : List Element) : Prop :=
  ∀ before row after, rows = before ++ row :: after → ∀ e, ¬ Refused label dims before row e

/-- What becomes of rows that refer to the dimensions of a cube. -/
structure ReferringFill (label : String) (dims : NamedList MetadataObject) (rows : List Element)
    (outcome : Except ClientError (NamedList MetadataObject)) : Prop where
  succeeds : (∃ list, outcome = .ok list) ↔ Admitted label dims rows
  listed : ∀ {list : NamedList MetadataObject}, outcome = .ok list → Referred dims rows list
  /-- The error is that of the first row that is refused. -/
  failed : ∀ {e : ClientError}, outcome = .error e ↔ ∃ before row after,
    rows = before ++ row :: after ∧ Admitted label dims before ∧ Refused label dims before row e
  /-- Dimensions that come again are merged, as long as none that is listed goes by its short
  name. -/
  merged : (∀ before row after, rows = before ++ row :: after → ∀ d, RefersShortly dims row d →
      ∀ earlier ∈ before, ¬ Refers dims earlier d) →
    ∀ other name, outcome ≠ .error (.duplicateName other name)

/-! ## The loop -/

/-- What a row becomes if the dimensions of the cube are at hand. -/
def referringAnswer (dims : NamedList MetadataObject) : RowAnswer MetadataObject :=
  fun row list => (givenName row).map fun name =>
    if list.containsUnique name then none else dims.get? name

/-- A row adds the dimension it refers to, unless its text is a unique name in the list. -/
theorem referringAnswer_eq_some_iff : referringAnswer dims row list = .ok (some d) ↔
    ∃ name, givenName row = .ok name ∧ name ∉ list.uniqueNames ∧ dims.get? name = some d := by
  simp only [referringAnswer, map_eq_ok_iff, NamedList.containsUnique_iff]
  constructor
  · rintro ⟨name, hname, hif⟩
    split at hif
    · cases hif
    · exact ⟨name, hname, ‹_›, hif⟩
  · rintro ⟨name, hname, hfree, hget⟩
    exact ⟨name, hname, by rw [if_neg hfree, hget]⟩

theorem referent?_of_referringAnswer (h : referringAnswer dims row list = .ok (some d)) :
    referent? dims row = some d := by
  obtain ⟨name, hname, -, hget⟩ := referringAnswer_eq_some_iff.mp h
  rw [referent?, hname]
  exact hget

/-- A row that refers to a dimension is left out only if the dimension is listed. -/
theorem mem_of_referringAnswer (h : Gathers (referent? dims) rows list.toList)
    (hnone : referringAnswer dims row list = .ok none) (hd : referent? dims row = some d) :
    Named.uniqueName d ∈ list.uniqueNames := by
  obtain ⟨name, hname, hif⟩ := map_eq_ok hnone
  rw [referent?, hname] at hd
  have hget : dims.get? name = some d := hd
  split at hif
  · -- the name is that of a listed dimension, so it is this dimension that it names
    rename_i htaken
    obtain ⟨other, hother, rfl⟩ := List.mem_map.mp (NamedList.containsUnique_iff.mp htaken)
    have hcube := (referred_of_gathers h).shared hother
    have hother' : dims.get? (Named.uniqueName other) = some other :=
      NamedList.get?_eq_some_iff.mpr (.inl ⟨hcube, rfl⟩)
    obtain rfl := Option.some.inj (hget.symm.trans hother')
    exact List.mem_map_of_mem hother
  · rw [hget] at hif
    cases hif

/-- Rows that fill a group gather their referents. -/
theorem gathers_of_referring (h : fill label (referringAnswer dims) rows = .ok list) :
    Gathers (referent? dims) rows list.toList :=
  gathers_of_fill referent?_of_referringAnswer mem_of_referringAnswer h

/-- Behind the rows of a list, a row fails exactly if it is refused. -/
theorem addRow_referring_eq_error_iff {e : ClientError}
    (h : Gathers (referent? dims) rows list.toList) :
    addRow label (referringAnswer dims) list row = .error e ↔ Refused label dims rows row e := by
  have hreferred := referred_of_gathers h
  rw [addRow_eq_error_iff, referringAnswer, map_eq_error_iff]
  constructor
  · rintro (hgiven | ⟨d, hd, htaken, rfl⟩)
    · exact .nameless hgiven
    · obtain ⟨name, hname, hfree, hget⟩ := referringAnswer_eq_some_iff.mp hd
      obtain ⟨other, hother, heq⟩ := List.mem_map.mp htaken
      rcases NamedList.get?_eq_some_iff.mp hget with ⟨-, rfl⟩ | ⟨hunused, rfl, hfirst⟩
      · exact absurd htaken hfree
      · obtain rfl := NamedList.eq_of_uniqueName (hreferred.shared hother)
          (NamedList.mem_of_get? hget) heq
        obtain ⟨earlier, hearlier, hrefers⟩ := hreferred.mem_iff.mp hother
        exact .again ⟨hname, hunused, hfirst⟩ hearlier hrefers
  · rintro (hgiven | ⟨hshort, hearlier, hrefers⟩)
    · exact .inl hgiven
    · rename_i d earlier
      have hd := hreferred.mem_iff.mpr ⟨earlier, hearlier, hrefers⟩
      refine .inr ⟨d, referringAnswer_eq_some_iff.mpr ⟨_, hshort.given, ?_, ?_⟩,
        List.mem_map_of_mem hd, rfl⟩
      · intro htaken
        obtain ⟨other, hother, heq⟩ := List.mem_map.mp htaken
        exact hshort.free (heq ▸ List.mem_map_of_mem (hreferred.shared hother))
      · exact NamedList.get?_eq_some_iff.mpr (.inr ⟨hshort.free, rfl, hshort.first⟩)

/-- Rows fill a group exactly if each of them is admitted. -/
theorem exists_fill_iff_admitted :
    (∃ list, fill label (referringAnswer dims) rows = .ok list) ↔ Admitted label dims rows := by
  constructor
  · rintro ⟨list, hlist⟩ before row after rfl e hrefused
    have hfails : ∃ e, fill label (referringAnswer dims) (before ++ row :: after) = .error e := by
      cases hbefore : fill label (referringAnswer dims) before with
      | error e' =>
        obtain ⟨first, bad, rest, shorter, rfl, hshorter, hbad⟩ := fill_eq_error_iff.mp hbefore
        exact ⟨e', fill_eq_error_iff.mpr
          ⟨first, bad, rest ++ row :: after, shorter, by simp, hshorter, hbad⟩⟩
      | ok shorter =>
        exact ⟨e, fill_eq_error_iff.mpr ⟨before, row, after, shorter, rfl, hbefore,
          (addRow_referring_eq_error_iff (gathers_of_referring hbefore)).mpr hrefused⟩⟩
    obtain ⟨e', he'⟩ := hfails
    rw [hlist] at he'
    cases he'
  · intro hadmitted
    cases hfill : fill label (referringAnswer dims) rows with
    | ok list => exact ⟨list, rfl⟩
    | error e =>
      obtain ⟨before, row, after, list, hrows, hbefore, hrow⟩ := fill_eq_error_iff.mp hfill
      exact absurd ((addRow_referring_eq_error_iff (gathers_of_referring hbefore)).mp hrow)
        (hadmitted before row after hrows e)

/-- Rows that do not fill a group fail with the first one that is refused. -/
theorem referring_failed {e : ClientError} :
    fill label (referringAnswer dims) rows = .error e ↔ ∃ before row after,
      rows = before ++ row :: after ∧ Admitted label dims before ∧
        Refused label dims before row e := by
  rw [fill_eq_error_iff]
  constructor
  · rintro ⟨before, row, after, list, hrows, hbefore, hrow⟩
    exact ⟨before, row, after, hrows, exists_fill_iff_admitted.mp ⟨list, hbefore⟩,
      (addRow_referring_eq_error_iff (gathers_of_referring hbefore)).mp hrow⟩
  · rintro ⟨before, row, after, hrows, hadmitted, hrefused⟩
    obtain ⟨list, hbefore⟩ := exists_fill_iff_admitted.mpr hadmitted
    exact ⟨before, row, after, list, hrows, hbefore,
      (addRow_referring_eq_error_iff (gathers_of_referring hbefore)).mpr hrefused⟩

/-- All that can become of the rows of a group. -/
theorem referringFill (label : String) (dims : NamedList MetadataObject) (rows : List Element) :
    ReferringFill label dims rows (fill label (referringAnswer dims) rows) where
  succeeds := exists_fill_iff_admitted
  listed h := referred_of_gathers (gathers_of_referring h)
  failed := referring_failed
  merged hmerged other name h := by
    obtain ⟨before, row, after, hrows, -, hrefused⟩ := referring_failed.mp h
    cases hrefused with
    | nameless hgiven => cases Field.string_fails row _ _ hgiven
    | again hshort hearlier hd => exact hmerged before row after hrows _ hshort _ hearlier hd

end CubeClient
