import CubeClient.Proofs.Failure
import CubeClient.Proofs.Text.Splitting
import CubeClient.Url.Address
import Mathlib

/-!
# Written addresses

Two addresses that are written alike are equal, as long as they are addresses at all: four bytes, or
eight groups of sixteen bits. An IPv4 address is read off its labels. An IPv6 address is read off
the groups on both sides of the gap, which is where the first double colon stands because no group
is written as nothing.
-/

namespace CubeClient.Url

open CubeClient.Text

/-! ## IPv4 -/

/-- The labels of an IPv4 address. -/
def ipv4Labels (address : Nat) : List (List Char) :=
  [3, 2, 1, 0].map fun place => (toString (address / Nat.pow 256 place % 256)).toList

theorem isDigit_of_mem_toString {n : Nat} {c : Char} (h : c ∈ (toString n).toList) :
    c.isDigit = true := by
  rw [Nat.toString_eq_ofList_toDigits, String.toList_ofList] at h
  exact Nat.isDigit_of_mem_toDigits (by decide) (by decide) h

theorem toString_ne_nil (n : Nat) : (toString n).toList ≠ [] := by
  rw [Nat.toString_eq_ofList_toDigits, String.toList_ofList]
  exact Nat.toDigits_ne_nil

theorem toString_injective {m n : Nat} (h : toString m = toString n) : m = n := by
  have hdigits := congrArg String.toList h
  rw [Nat.toString_eq_ofList_toDigits, Nat.toString_eq_ofList_toDigits, String.toList_ofList,
    String.toList_ofList] at hdigits
  rw [← Nat.ofDigitChars_ten_toDigits (n := m), hdigits, Nat.ofDigitChars_ten_toDigits]

theorem toList_renderIpv4 (address : Nat) :
    (renderIpv4 address).toList = joinWith '.' (ipv4Labels address) :=
  toList_intercalate '.' _

theorem splitAt_renderIpv4 (address : Nat) :
    splitAt '.' (renderIpv4 address).toList = ipv4Labels address := by
  rw [toList_renderIpv4]
  refine splitAt_joinWith (List.cons_ne_nil _ _) fun label hlabel hdot => ?_
  obtain ⟨place, -, rfl⟩ := List.mem_map.mp hlabel
  exact absurd (isDigit_of_mem_toString hdot) (by decide)

/-- No two IPv4 addresses are written alike. -/
theorem renderIpv4_injective {a b : Nat} (ha : a < 256 ^ 4) (hb : b < 256 ^ 4)
    (h : renderIpv4 a = renderIpv4 b) : a = b := by
  have hlabels : ipv4Labels a = ipv4Labels b := by
    rw [← splitAt_renderIpv4, h, splitAt_renderIpv4]
  have hbyte : ∀ place ∈ [3, 2, 1, 0],
      a / Nat.pow 256 place % 256 = b / Nat.pow 256 place % 256 := by
    intro place hplace
    exact toString_injective (String.toList_inj.mp (List.map_inj_left.mp hlabels place hplace))
  have h₃ : a / 16777216 % 256 = b / 16777216 % 256 := hbyte 3 (by decide)
  have h₂ : a / 65536 % 256 = b / 65536 % 256 := hbyte 2 (by decide)
  have h₁ : a / 256 % 256 = b / 256 % 256 := hbyte 1 (by decide)
  have h₀ : a / 1 % 256 = b / 1 % 256 := hbyte 0 (by decide)
  omega

/-! ## Groups -/

theorem hexDigit_injective : ∀ m < 16, ∀ n < 16, hexDigit m = hexDigit n → m = n := by
  decide

theorem hexDigit_ne_colon : ∀ n < 16, hexDigit n ≠ ':' := by
  decide

theorem length_hexPadded (width n : Nat) : (hexPadded width n).length = width := by
  induction width generalizing n with
  | zero => rfl
  | succ width ih => simp [hexPadded, ih]

/-- Numbers of one width are told apart by their digits. -/
theorem hexPadded_injective {width m n : Nat} (hm : m < 16 ^ width) (hn : n < 16 ^ width)
    (h : hexPadded width m = hexPadded width n) : m = n := by
  induction width generalizing m n with
  | zero => omega
  | succ width ih =>
    obtain ⟨hhigh, hlow⟩ := List.append_inj' h rfl
    have hdigit := hexDigit_injective (m % 16) (by omega) (n % 16) (by omega)
      (List.singleton_inj.mp hlow)
    have hrest : m / 16 = n / 16 := by
      apply ih _ _ hhigh
      · omega
      · omega
    omega

theorem exists_of_mem_hexPadded {width n : Nat} {c : Char} (h : c ∈ hexPadded width n) :
    ∃ digit < 16, c = hexDigit digit := by
  induction width generalizing n with
  | zero => cases h
  | succ width ih =>
    rcases List.mem_append.mp h with h | h
    · exact ih h
    · exact ⟨n % 16, Nat.mod_lt _ (by decide), List.mem_singleton.mp h⟩

/-- A group as it is written. -/
def groupText (group : Nat) : List Char :=
  (renderGroup group).toList

/-- A group is written without zeros in front, and as one if it is zero. -/
theorem groupText_eq (group : Nat) :
    groupText group =
      if (hexPadded 4 group).dropWhile (· == '0') = [] then ['0']
      else (hexPadded 4 group).dropWhile (· == '0') := by
  unfold groupText renderGroup
  cases (hexPadded 4 group).dropWhile (· == '0') <;> simp

theorem groupText_ne_nil (group : Nat) : groupText group ≠ [] := by
  rw [groupText_eq]
  split
  · exact List.cons_ne_nil _ _
  · assumption

theorem colon_not_mem_groupText (group : Nat) : ':' ∉ groupText group := by
  intro h
  rw [groupText_eq] at h
  split at h
  · exact absurd h (by decide)
  · obtain ⟨digit, hdigit, hc⟩ := exists_of_mem_hexPadded ((List.dropWhile_sublist _).mem h)
    exact hexDigit_ne_colon digit hdigit hc.symm

/-- A text of known length is known without its leading zeros. -/
theorem eq_of_dropWhile_eq {p : Char} {cs ds : List Char} (hlen : cs.length = ds.length)
    (h : cs.dropWhile (· == p) = ds.dropWhile (· == p)) : cs = ds := by
  have hsplit : ∀ es : List Char, es =
      List.replicate (es.length - (es.dropWhile (· == p)).length) p ++ es.dropWhile (· == p) := by
    intro es
    have htake : es.takeWhile (· == p) = List.replicate (es.takeWhile (· == p)).length p :=
      List.eq_replicate_iff.mpr ⟨rfl, fun c hc => by simpa using List.mem_takeWhile_imp hc⟩
    have hlength : (es.takeWhile (· == p)).length + (es.dropWhile (· == p)).length = es.length := by
      rw [← List.length_append, List.takeWhile_append_dropWhile]
    conv_lhs => rw [← List.takeWhile_append_dropWhile (p := (· == p)) (l := es), htake]
    congr 2
    omega
  rw [hsplit cs, hsplit ds, hlen, h]

/-- Groups are told apart by their texts. -/
theorem groupText_injective {g g' : Nat} (hg : g < 0x10000) (hg' : g' < 0x10000)
    (h : groupText g = groupText g') : g = g' := by
  have hhead : ∀ cs : List Char, cs.dropWhile (· == '0') ≠ ['0'] := by
    intro cs hcs
    have hne : cs.dropWhile (· == '0') ≠ [] := by simp [hcs]
    have hfirst := List.head_dropWhile_not (· == '0') hne
    simp [hcs] at hfirst
  have hdrop : (hexPadded 4 g).dropWhile (· == '0') = (hexPadded 4 g').dropWhile (· == '0') := by
    rw [groupText_eq, groupText_eq] at h
    split at h <;> split at h
    · rename_i h₁ h₂
      rw [h₁, h₂]
    · exact absurd h.symm (hhead _)
    · exact absurd h (hhead _)
    · exact h
  have hpadded : hexPadded 4 g = hexPadded 4 g' :=
    eq_of_dropWhile_eq (by rw [length_hexPadded, length_hexPadded]) hdrop
  exact hexPadded_injective (by omega) (by omega) hpadded

/-! ## Groups with colons between them -/

/-- Groups as they are written, with colons between them. -/
def groupsText (groups : List Nat) : List Char :=
  joinWith ':' (groups.map groupText)

theorem eq_of_map_groupText_eq {groups groups' : List Nat} (hg : ∀ g ∈ groups, g < 0x10000)
    (hg' : ∀ g ∈ groups', g < 0x10000) (h : groups.map groupText = groups'.map groupText) :
    groups = groups' := by
  induction groups generalizing groups' with
  | nil => exact (List.map_eq_nil_iff.mp h.symm).symm
  | cons g groups ih =>
    cases groups' with
    | nil => cases h
    | cons g' groups' =>
      obtain ⟨hfirst, hrest⟩ := List.cons.inj h
      rw [groupText_injective (hg g List.mem_cons_self) (hg' g' List.mem_cons_self) hfirst,
        ih (fun x hx => hg x (List.mem_cons_of_mem _ hx))
          (fun x hx => hg' x (List.mem_cons_of_mem _ hx)) hrest]

/-- Lists of groups between colons are told apart. -/
theorem groupsText_injective {groups groups' : List Nat} (hg : ∀ g ∈ groups, g < 0x10000)
    (hg' : ∀ g ∈ groups', g < 0x10000) (h : groupsText groups = groupsText groups') :
    groups = groups' := by
  have hempty : ∀ groups : List Nat, groupsText groups = [] → groups = [] := by
    intro groups hnil
    rcases groups with _ | ⟨g, _ | ⟨g', groups⟩⟩
    · rfl
    · exact absurd hnil (groupText_ne_nil g)
    · exact absurd (List.append_eq_nil_iff.mp hnil).2 (List.cons_ne_nil _ _)
  have hcolon : ∀ groups : List Nat, ∀ text ∈ groups.map groupText, ':' ∉ text := by
    intro groups text htext
    obtain ⟨g, -, rfl⟩ := List.mem_map.mp htext
    exact colon_not_mem_groupText g
  by_cases hnil : groups = []
  · subst hnil
    exact (hempty groups' h.symm).symm
  · by_cases hnil' : groups' = []
    · subst hnil'
      exact hempty groups h
    · have htexts := joinWith_injective (by simpa using hnil) (by simpa using hnil')
        (hcolon groups) (hcolon groups') h
      exact eq_of_map_groupText_eq hg hg' htexts

theorem head?_groupsText (g : Nat) (groups : List Nat) (rest : List Char) :
    (groupsText (g :: groups) ++ rest).head? ≠ some ':' := by
  obtain ⟨c, text, htext⟩ := List.exists_cons_of_ne_nil (groupText_ne_nil g)
  have hc : c ≠ ':' := by
    rintro rfl
    exact colon_not_mem_groupText g (htext ▸ List.mem_cons_self)
  have hcons : ∃ tail, groupsText (g :: groups) = c :: tail := by
    cases groups with
    | nil => exact ⟨text, htext⟩
    | cons g' groups => exact ⟨text ++ ':' :: groupsText (g' :: groups), by
        rw [← List.cons_append, ← htext]
        rfl⟩
  obtain ⟨tail, htail⟩ := hcons
  rw [htail]
  simpa using hc

theorem cutAtGap_cons {c : Char} {rest : List Char} (h : c = ':' → rest.head? ≠ some ':') :
    cutAtGap (c :: rest) = (cutAtGap rest).map fun (before, after) => (c :: before, after) := by
  rw [cutAtGap]
  rintro tail rfl rfl
  exact absurd rfl (h rfl)

theorem cutAtGap_append {text : List Char} (h : ':' ∉ text) (rest : List Char) :
    cutAtGap (text ++ rest) =
      (cutAtGap rest).map fun (before, after) => (text ++ before, after) := by
  induction text with
  | nil => simp
  | cons c text ih =>
    have hc : c ≠ ':' := fun hc => h (hc ▸ List.mem_cons_self)
    rw [List.cons_append, cutAtGap_cons fun heq => absurd heq hc,
      ih fun hmem => h (List.mem_cons_of_mem _ hmem), Option.map_map]
    rfl

/-- A gap is never inside groups. -/
theorem cutAtGap_groupsText (groups : List Nat) (rest : List Char) :
    cutAtGap (groupsText groups ++ rest) =
      (cutAtGap rest).map fun (before, after) => (groupsText groups ++ before, after) := by
  induction groups with
  | nil => simp [groupsText, joinWith]
  | cons g groups ih =>
    cases groups with
    | nil => exact cutAtGap_append (colon_not_mem_groupText g) rest
    | cons g' groups =>
      have htext : groupsText (g :: g' :: groups) =
          groupText g ++ ':' :: groupsText (g' :: groups) := rfl
      rw [htext, List.append_assoc, cutAtGap_append (colon_not_mem_groupText g), List.cons_append,
        cutAtGap_cons fun _ => head?_groupsText g' groups rest, ih, Option.map_map, Option.map_map]
      simp [Function.comp_def]

/-! ## IPv6 -/

/-- The zeros that are left out. -/
theorem zeroRun_eq_some {groups : List Nat} {start length : Nat}
    (h : zeroRun groups = some (start, length)) :
    groups = groups.take start ++ List.replicate length 0 ++ groups.drop (start + length) := by
  have hlength : length = leadingZeros (groups.drop start) := by
    -- Each place that is tried brings the number of zeros that begin there.
    have hfold : ∀ (starts : List Nat) (best : Option (Nat × Nat)),
        (∀ run, best = some run → run.2 = leadingZeros (groups.drop run.1)) →
        ∀ run, starts.foldl (fun best start =>
          let length := leadingZeros (groups.drop start)
          if best.elim 1 Prod.snd < length then some (start, length) else best) best = some run →
          run.2 = leadingZeros (groups.drop run.1) := by
      intro starts
      induction starts with
      | nil => exact fun best hbest run hrun => hbest run hrun
      | cons first starts ih =>
        intro best hbest
        refine ih _ fun run hrun => ?_
        dsimp only at hrun
        split at hrun
        · cases hrun
          rfl
        · exact hbest run hrun
    exact hfold _ none (fun _ hrun => nomatch hrun) (start, length) h
  have hzeros : (groups.drop start).takeWhile (· == 0) = List.replicate length 0 :=
    List.eq_replicate_iff.mpr ⟨hlength.symm, fun g hg => by simpa using List.mem_takeWhile_imp hg⟩
  have hrest : (groups.drop start).dropWhile (· == 0) = groups.drop (start + length) := by
    have hdrop := congrArg (List.drop length)
      (List.takeWhile_append_dropWhile (p := (· == 0)) (l := groups.drop start))
    rw [hzeros, List.drop_left' List.length_replicate, List.drop_drop] at hdrop
    exact hdrop
  rw [List.append_assoc, ← hzeros, ← hrest, List.takeWhile_append_dropWhile, List.take_append_drop]

/-- An address is written as its groups, with the longest run of zeros left out. -/
theorem toList_renderIpv6 (groups : List Nat) :
    (renderIpv6 groups).toList =
      match zeroRun groups with
      | none => groupsText groups
      | some (start, length) =>
        groupsText (groups.take start) ++
          ':' :: ':' :: groupsText (groups.drop (start + length)) := by
  have htext : ∀ part : List Nat,
      (":".intercalate (part.map renderGroup)).toList = groupsText part := by
    intro part
    refine (toList_intercalate ':' _).trans ?_
    rw [List.map_map]
    rfl
  unfold renderIpv6
  cases zeroRun groups with
  | none => exact htext groups
  | some run =>
    simp only [String.toList_append, htext, List.append_assoc]
    rfl

/-- The gap tells which groups were left out. -/
theorem cutAtGap_renderIpv6 (groups : List Nat) :
    cutAtGap (renderIpv6 groups).toList = (zeroRun groups).map fun (start, length) =>
      (groupsText (groups.take start), groupsText (groups.drop (start + length))) := by
  rw [toList_renderIpv6]
  cases zeroRun groups with
  | none =>
    have h := cutAtGap_groupsText groups []
    rw [List.append_nil] at h
    exact h
  | some run =>
    dsimp only
    rw [cutAtGap_groupsText, cutAtGap]
    simp

/-- No two IPv6 addresses are written alike. -/
theorem renderIpv6_injective {groups groups' : List Nat} (hlen : groups.length = 8)
    (hlen' : groups'.length = 8) (hg : ∀ g ∈ groups, g < 0x10000)
    (hg' : ∀ g ∈ groups', g < 0x10000) (h : renderIpv6 groups = renderIpv6 groups') :
    groups = groups' := by
  have hgap : (zeroRun groups).map (fun (start, length) =>
        (groupsText (groups.take start), groupsText (groups.drop (start + length)))) =
      (zeroRun groups').map (fun (start, length) =>
        (groupsText (groups'.take start), groupsText (groups'.drop (start + length)))) := by
    rw [← cutAtGap_renderIpv6, h, cutAtGap_renderIpv6]
  cases hrun : zeroRun groups with
  | none =>
    cases hrun' : zeroRun groups' with
    | some run' => simp [hrun, hrun'] at hgap
    | none =>
      have htext := congrArg String.toList h
      rw [toList_renderIpv6, toList_renderIpv6, hrun, hrun'] at htext
      exact groupsText_injective hg hg' htext
  | some run =>
    cases hrun' : zeroRun groups' with
    | none => simp [hrun, hrun'] at hgap
    | some run' =>
      obtain ⟨start, length⟩ := run
      obtain ⟨start', length'⟩ := run'
      simp only [hrun, hrun', Option.map_some, Option.some.injEq, Prod.mk.injEq] at hgap
      have hbefore : groups.take start = groups'.take start' :=
        groupsText_injective (fun g hmem => hg g (List.mem_of_mem_take hmem))
          (fun g hmem => hg' g (List.mem_of_mem_take hmem)) hgap.1
      have hafter : groups.drop (start + length) = groups'.drop (start' + length') :=
        groupsText_injective (fun g hmem => hg g (List.mem_of_mem_drop hmem))
          (fun g hmem => hg' g (List.mem_of_mem_drop hmem)) hgap.2
      have hsplit := zeroRun_eq_some hrun
      have hsplit' := zeroRun_eq_some hrun'
      -- Both have eight groups, so as many are left out.
      have hlength : length = length' := by
        have h₁ := congrArg List.length hsplit
        have h₂ := congrArg List.length hsplit'
        rw [hbefore, hafter] at h₁
        simp only [List.length_append, List.length_replicate] at h₁ h₂
        omega
      rw [hsplit, hbefore, hafter, hlength]
      exact hsplit'.symm

/-! ## Addresses that are read -/

theorem digitValueIn?_lt {base value : Nat} {c : Char} (h : digitValueIn? base c = some value) :
    value < base := by
  have hfilter := Option.filter_eq_some_iff.mp h
  simpa using hfilter.2

theorem valueInBase?_lt {base value : Nat} {digits : List Char}
    (h : valueInBase? base digits = some value) : value < base ^ digits.length := by
  -- A value that is begun grows by one place with each digit.
  have hfold : ∀ (digits : List Char) (begun : Option Nat) (value : Nat),
      digits.foldl (fun acc c => do
        let acc ← acc
        let value ← digitValueIn? base c
        some (acc * base + value)) begun = some value →
      ∃ start, begun = some start ∧ value < (start + 1) * base ^ digits.length := by
    intro digits
    induction digits with
    | nil => exact fun begun value hvalue => ⟨value, hvalue, by simp⟩
    | cons c digits ih =>
      intro begun value hvalue
      obtain ⟨next, hnext, hlt⟩ := ih _ _ hvalue
      obtain ⟨start, hstart, hnext⟩ := Option.bind_eq_some_iff.mp hnext
      obtain ⟨digit, hdigit, hnext⟩ := Option.bind_eq_some_iff.mp hnext
      obtain rfl := Option.some.inj hnext
      have hle : start * base + digit + 1 ≤ (start + 1) * base := by
        rw [Nat.add_mul, Nat.one_mul, Nat.add_assoc]
        exact Nat.add_le_add_left (digitValueIn?_lt hdigit) _
      refine ⟨start, hstart, lt_of_lt_of_le hlt ?_⟩
      calc (start * base + digit + 1) * base ^ digits.length
          ≤ (start + 1) * base * base ^ digits.length := Nat.mul_le_mul_right _ hle
        _ = (start + 1) * base ^ (digits.length + 1) := by rw [Nat.pow_succ', Nat.mul_assoc]
  obtain ⟨start, hstart, hlt⟩ := hfold digits (some 0) value h
  obtain rfl := Option.some.inj hstart
  simpa using hlt

theorem foldl_bytes_lt {leading : List Nat} (h : ∀ n ∈ leading, n < 256) :
    leading.foldl (fun acc n => acc * 256 + n) 0 < 256 ^ leading.length := by
  induction leading using List.reverseRecOn with
  | nil => decide
  | append_singleton leading last ih =>
    have hinit := ih fun n hn => h n (List.mem_append_left _ hn)
    have hlast := h last (List.mem_append_right _ (List.mem_singleton_self last))
    rw [List.foldl_append, List.length_append, List.length_singleton, Nat.pow_succ]
    simp only [List.foldl_cons, List.foldl_nil]
    omega

/-- An address that is read has four bytes. -/
theorem readIpv4?_lt {name : List Char} {address : Nat} (h : readIpv4? name = some address) :
    address < 256 ^ 4 := by
  unfold readIpv4? at h
  split at h
  · cases h
  · rename_i numbers hnumbers
    obtain ⟨last, -, h⟩ := Option.bind_eq_some_iff.mp h
    unfold ipv4OfNumbers? at h
    split at h
    · rename_i hfits
      obtain ⟨hlength, hlast, hall⟩ := hfits
      have hleading := foldl_bytes_lt fun n hn => by simpa using List.all_eq_true.mp hall n hn
      obtain rfl := Option.some.inj h
      have hpow :
          256 ^ numbers.dropLast.length * 256 ^ (4 - numbers.dropLast.length) = 256 ^ 4 := by
        rw [← Nat.pow_add]
        congr 1
        omega
      have hplace : Nat.pow 256 (4 - numbers.dropLast.length) =
          256 ^ (4 - numbers.dropLast.length) := rfl
      rw [hplace] at hlast ⊢
      generalize 256 ^ (4 - numbers.dropLast.length) = place at *
      calc numbers.dropLast.foldl (fun acc n => acc * 256 + n) 0 * place + last
          < (numbers.dropLast.foldl (fun acc n => acc * 256 + n) 0 + 1) * place := by
            rw [Nat.add_mul, Nat.one_mul]
            exact Nat.add_lt_add_left hlast _
        _ ≤ 256 ^ numbers.dropLast.length * place := Nat.mul_le_mul_right _ hleading
        _ = 256 ^ 4 := hpow
    · cases h

theorem ipv6Group?_lt {digits : List Char} {group : Nat} (h : ipv6Group? digits = some group) :
    group < 0x10000 := by
  unfold ipv6Group? at h
  split at h
  · cases h
  · rename_i hlength
    calc group < 16 ^ digits.length := valueInBase?_lt h
      _ ≤ 16 ^ 4 := Nat.pow_le_pow_right (by decide) (by omega)

theorem plainByte?_lt {digits : List Char} {byte : Nat} (h : plainByte? digits = some byte) :
    byte < 256 := by
  unfold plainByte? at h
  split at h
  · cases h
  · cases h
  · simpa using (Option.filter_eq_some_iff.mp h).2

theorem lastGroups?_lt {text : List Char} {groups : List Nat} (h : lastGroups? text = some groups) :
    ∀ g ∈ groups, g < 0x10000 := by
  unfold lastGroups? at h
  split at h
  · split at h
    · rename_i a b c d hbytes
      have hlt : ∀ byte ∈ [a, b, c, d], byte < 256 := by
        intro byte hmem
        obtain ⟨piece, -, hpiece⟩ := exists_of_mem_mapM hbytes hmem
        exact plainByte?_lt hpiece
      simp only [List.mem_cons, List.not_mem_nil, or_false, forall_eq_or_imp, forall_eq] at hlt
      obtain rfl := Option.some.inj h
      simp only [List.mem_cons, List.not_mem_nil, or_false, forall_eq_or_imp, forall_eq]
      omega
    · cases h
  · obtain ⟨group, hgroup, rfl⟩ := Option.map_eq_some_iff.mp h
    intro g hg
    exact List.mem_singleton.mp hg ▸ ipv6Group?_lt hgroup

theorem groups?_lt {allowIpv4 : Bool} {text : List Char} {groups : List Nat}
    (h : groups? allowIpv4 text = some groups) : ∀ g ∈ groups, g < 0x10000 := by
  unfold groups? at h
  split at h
  · cases h
    exact fun g hg => nomatch hg
  · dsimp only at h
    split at h
    · cases h
    · obtain ⟨leading, hleading, h⟩ := Option.bind_eq_some_iff.mp h
      have happend : ∀ ending : List Nat, (∀ g ∈ ending, g < 0x10000) →
          ∀ g ∈ leading ++ ending, g < 0x10000 := by
        intro ending hending g hg
        rcases List.mem_append.mp hg with hg | hg
        · obtain ⟨piece, -, hpiece⟩ := exists_of_mem_mapM hleading hg
          exact ipv6Group?_lt hpiece
        · exact hending g hg
      split at h
      · obtain ⟨ending, hending, h⟩ := Option.bind_eq_some_iff.mp h
        exact Option.some.inj h ▸ happend ending (lastGroups?_lt hending)
      · obtain ⟨ending, hending, h⟩ := Option.bind_eq_some_iff.mp h
        obtain ⟨group, hgroup, rfl⟩ := Option.map_eq_some_iff.mp hending
        refine Option.some.inj h ▸ happend [group] fun g hg => ?_
        exact List.mem_singleton.mp hg ▸ ipv6Group?_lt hgroup

/-- An address that is read has eight groups of two bytes. -/
theorem readIpv6?_wellFormed {text : List Char} {groups : List Nat}
    (h : readIpv6? text = some groups) : groups.length = 8 ∧ ∀ g ∈ groups, g < 0x10000 := by
  unfold readIpv6? at h
  split at h
  · obtain ⟨hgroups, hlength⟩ := Option.filter_eq_some_iff.mp h
    exact ⟨by simpa using hlength, groups?_lt hgroups⟩
  · obtain ⟨leading, hleading, h⟩ := Option.bind_eq_some_iff.mp h
    obtain ⟨ending, hending, h⟩ := Option.bind_eq_some_iff.mp h
    split at h
    · rename_i hlength
      obtain rfl := Option.some.inj h
      constructor
      · simp only [List.length_append, List.length_replicate]
        omega
      · intro g hg
        rcases List.mem_append.mp hg with hg | hg
        · rcases List.mem_append.mp hg with hg | hg
          · exact groups?_lt hleading g hg
          · rw [List.eq_of_mem_replicate hg]
            decide
        · exact groups?_lt hending g hg
    · cases h

end CubeClient.Url
