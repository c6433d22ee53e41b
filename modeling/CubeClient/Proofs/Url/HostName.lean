import CubeClient.Proofs.Url.Address
import CubeClient.Url.Basic

/-!
# Hosts that are read

A host of a URL of the web is a name without forbidden characters that does not end in a number, or
an address of its right size (`Host.read_wellFormed`). Such hosts are told apart by how they are
written (`Host.render_injective`).
-/

namespace CubeClient

open CubeClient.Text CubeClient.Url

namespace Url

/-- A character may stand in a host name. -/
abbrev Permitted (c : Char) : Prop :=
  isForbiddenInName c = false

/-! ## Labels in Punycode -/

namespace Punycode

theorem permitted_digit : ∀ value < 36, Permitted (digit value) := by
  decide

theorem permitted_of_mem_writeNumber {bias place delta : Nat} {c : Char}
    (h : c ∈ writeNumber bias place delta) : Permitted c := by
  induction place, delta using writeNumber.induct bias with
  | case1 place delta hlast =>
    rw [writeNumber, if_pos hlast] at h
    have hbounds := threshold_bounds place bias
    rw [List.mem_singleton.mp h]
    exact permitted_digit delta (by omega)
  | case2 place delta hmore ih =>
    rw [writeNumber, if_neg hmore] at h
    have hbounds := threshold_bounds place bias
    rcases List.mem_cons.mp h with rfl | h
    · have hlt := Nat.mod_lt (delta - threshold place bias)
        (show 36 - threshold place bias > 0 by omega)
      exact permitted_digit _ (by omega)
    · exact ih h

theorem permitted_passChar {plain value : Nat} {p : Progress} {c : Char}
    (hp : ∀ d ∈ p.output, Permitted d) : ∀ d ∈ (passChar plain value p c).output, Permitted d := by
  unfold passChar
  split
  · exact hp
  · split
    · intro d hd
      rcases List.mem_append.mp hd with hd | hd
      · exact hp d hd
      · exact permitted_of_mem_writeNumber hd
    · exact hp

theorem permitted_placeAll {label : List Char} {plain : Nat} {values : List Nat} {next : Nat}
    {p : Progress} (hp : ∀ d ∈ p.output, Permitted d) :
    ∀ d ∈ (placeAll label plain values next p).output, Permitted d := by
  induction values generalizing next p with
  | nil => exact hp
  | cons value values ih =>
    have hpass : ∀ (cs : List Char) (p : Progress), (∀ d ∈ p.output, Permitted d) →
        ∀ d ∈ (cs.foldl (passChar plain value) p).output, Permitted d := by
      intro cs
      induction cs with
      | nil => exact fun p hp => hp
      | cons c cs ihc => exact fun p hp => ihc _ (permitted_passChar hp)
    exact ih (hpass label { p with delta := p.delta + (value - next) * (p.placed + 1) } hp)

/-- A label in Punycode holds what is permitted, if the label does. -/
theorem permitted_encode {label : List Char} (h : ∀ c ∈ label, Permitted c) :
    ∀ c ∈ encode label, Permitted c := by
  refine permitted_placeAll fun c hc => ?_
  rcases List.mem_append.mp hc with hc | hc
  · exact h c (List.mem_filter.mp hc).1
  · split at hc
    · cases hc
    · rw [List.mem_singleton.mp hc]
      decide

end Punycode

/-! ## Names -/

theorem permitted_of_isFolded {label : List Char} (h : isFolded label = true) :
    ∀ c ∈ label, Permitted c := by
  unfold isFolded at h
  split at h
  · cases h
  · intro c hc
    have hall := List.all_eq_true.mp (Bool.and_eq_true_iff.mp h).1 c hc
    simp only [Bool.and_eq_true, Bool.not_eq_true'] at hall
    exact hall.1.2

theorem permitted_of_labelChars? {piece label : List Char} (h : labelChars? piece = some label)
    (hpiece : ∀ c ∈ piece, Permitted c) : ∀ c ∈ label, Permitted c := by
  unfold labelChars? at h
  split at h
  · unfold decodeLabel? at h
    split at h
    · cases h
    · exact permitted_of_isFolded (Option.filter_eq_some_iff.mp h).2
  · split at h
    · cases h
    · exact Option.some.inj h ▸ hpiece

theorem permitted_asciiLabel {label : List Char} (h : ∀ c ∈ label, Permitted c) :
    ∀ c ∈ asciiLabel label, Permitted c := by
  unfold asciiLabel
  split
  · exact h
  · intro c hc
    rcases List.mem_append.mp hc with hc | hc
    · have hprefix : ∀ c ∈ "xn--".toList, Permitted c := by
        simp [Permitted, isForbiddenInName]
      exact hprefix c hc
    · exact Punycode.permitted_encode h c hc

/-- A name that is folded holds permitted characters only. -/
theorem permitted_of_foldName? {text name : List Char} (h : foldName? text = some name) :
    ∀ c ∈ name, Permitted c := by
  obtain ⟨folded, hfolded, h⟩ := Option.bind_eq_some_iff.mp h
  obtain ⟨labels, hlabels, h⟩ := Option.bind_eq_some_iff.mp h
  have hchars : ∀ c ∈ folded, Permitted c := by
    obtain ⟨-, hnone⟩ := Option.filter_eq_some_iff.mp hfolded
    simpa using hnone
  split at h
  · obtain rfl := Option.some.inj h
    intro c hc
    rcases mem_joinWith hc with rfl | ⟨ascii, hascii, hc⟩
    · decide
    · obtain ⟨label, hlabel, rfl⟩ := List.mem_map.mp hascii
      obtain ⟨piece, hpiece, hread⟩ := exists_of_mem_mapM hlabels hlabel
      refine permitted_asciiLabel (permitted_of_labelChars? hread fun d hd => ?_) c hc
      exact hchars d (mem_of_mem_splitAt hpiece hd)
  · cases h

end Url

/-! ## Hosts -/

namespace Host

/-- What a host of the web is. -/
inductive WellFormed : Host → Prop
  | domain {name : String} (hchars : ∀ c ∈ name.toList, Permitted c)
      (hnumber : endsInNumber name.toList = false) : WellFormed (.domain name)
  | ipv4 {address : Nat} (h : address < 256 ^ 4) : WellFormed (.ipv4 address)
  | ipv6 {groups : List Nat} (hlength : groups.length = 8) (h : ∀ g ∈ groups, g < 0x10000) :
      WellFormed (.ipv6 groups)

theorem readBracketed_wellFormed {text : List Char} {host : Host}
    (h : readBracketed text = .ok host) : host.WellFormed := by
  unfold readBracketed at h
  split at h
  · rename_i address _
    cases hread : readIpv6? address.reverse with
    | none =>
      rw [hread] at h
      cases h
    | some groups =>
      rw [hread] at h
      cases h
      obtain ⟨hlength, hlt⟩ := readIpv6?_wellFormed hread
      exact .ipv6 hlength hlt
  · cases h

/-- A host that is read as a name is well formed, be it a name or an address. -/
theorem readName_wellFormed {text : List Char} {host : Host} (h : readName text = .ok host) :
    host.WellFormed := by
  unfold readName at h
  split at h
  · cases h
  · cases h
  · rename_i name _ hname
    obtain ⟨decoded, -, hfold⟩ := Option.bind_eq_some_iff.mp hname
    split at h
    · cases hread : readIpv4? name with
      | none =>
        rw [hread] at h
        cases h
      | some address =>
        rw [hread] at h
        cases h
        exact .ipv4 (readIpv4?_lt hread)
    · rename_i hnumber
      cases h
      refine .domain ?_ ?_
      · rw [String.toList_ofList]
        exact permitted_of_foldName? hfold
      · rw [String.toList_ofList]
        simpa using hnumber

/-- Every host that is read is well formed. -/
theorem read_wellFormed {text : List Char} {host : Host} (h : read text = .ok host) :
    host.WellFormed := by
  unfold read at h
  split at h
  · exact readBracketed_wellFormed h
  · exact readName_wellFormed h

/-- No address in brackets is written like a name or like four numbers. -/
theorem bracket_not_mem_render {host : Host} (h : host.WellFormed)
    (hhost : ∀ groups, host ≠ .ipv6 groups) : '[' ∉ host.render.toList := by
  intro hmem
  cases h with
  | domain hchars _ => exact absurd (hchars _ hmem) (by decide)
  | ipv4 _ =>
    rw [render, toList_renderIpv4] at hmem
    rcases mem_joinWith hmem with hmem | ⟨label, hlabel, hmem⟩
    · exact absurd hmem (by decide)
    · obtain ⟨place, -, rfl⟩ := List.mem_map.mp hlabel
      exact absurd (isDigit_of_mem_toString hmem) (by decide)
  | ipv6 _ _ => exact hhost _ rfl

end Host

/-! ## URLs of the web -/

namespace Url

theorem unless_eq_ok {ε β : Type} {p : Prop} [Decidable p] {fault : ε} {f : Unit → Except ε β}
    {b : β} (h : (if p then throw fault >>= f else f ()) = .ok b) : f () = .ok b := by
  by_cases hp : p
  · rw [if_pos hp] at h
    cases h
  · rw [if_neg hp] at h
    exact h

/-- A URL of a special scheme has a host. -/
theorem readHost_special {port : Nat} {text : List Char} {host : Option Host}
    (h : readHost (.special port) text = .ok host) :
    ∃ found, host = some found ∧ found.WellFormed := by
  unfold readHost at h
  split at h
  · cases h
  · cases hread : Host.read text with
    | error fault => simp [SchemeKind.isWeb, hread, Except.map] at h
    | ok found =>
      simp only [SchemeKind.isWeb, ↓reduceIte, hread] at h
      cases h
      exact ⟨found, rfl, Host.read_wellFormed hread⟩

theorem readAuthority_special {port : Nat} {isLast : Bool} {text rest : List Char}
    {authority : Authority}
    (h : readAuthority (.special port) isLast text = .ok (authority, rest)) :
    ∃ host, authority.host = some host ∧ host.WellFormed := by
  unfold readAuthority at h
  obtain ⟨host, hhost, h⟩ := bind_eq_ok (unless_eq_ok h)
  obtain ⟨⟨port', rest'⟩, -, h⟩ := bind_eq_ok (unless_eq_ok h)
  have hlast := unless_eq_ok h
  cases hlast
  exact readHost_special hhost

/-- A URL of a special scheme has a host, which is well formed. -/
theorem host?_of_parse {text : String} {url : Url} {port : Nat} (h : parse text = .ok url)
    (hkind : SchemeKind.ofScheme url.scheme = .special port) :
    ∃ host, url.host? = some host ∧ host.WellFormed := by
  unfold parse at h
  obtain ⟨⟨scheme, rest⟩, hscheme, h⟩ := bind_eq_ok h
  obtain ⟨⟨authority, path⟩, hbody, h⟩ := bind_eq_ok h
  cases h
  dsimp only at hkind hbody
  rw [hkind] at hbody
  obtain ⟨⟨found, rest'⟩, hfound, h⟩ := bind_eq_ok hbody
  cases h
  obtain ⟨host, hhost, hwell⟩ := readAuthority_special hfound
  exact ⟨host, hhost, hwell⟩

end Url

end CubeClient
