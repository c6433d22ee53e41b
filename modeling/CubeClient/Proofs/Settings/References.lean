import CubeClient.Proofs.Text.Splitting
import CubeClient.Settings.Environment
import Mathlib.Data.List.Forall2
import Mathlib.Data.List.TakeWhile

/-!
# References to variables

A text has one reading as a sequence of tokens (`SettingToken.reads_iff`), and the reading does not
depend on what any variable holds. Replacing the variables is then a matter of the tokens alone
(`Environment.expand_reading`): the values are joined as they are, or the first variable that is
missing is reported.
-/

namespace CubeClient

open CubeClient.Text

namespace SettingToken

/-! ## Readings -/

/-- Whether a token may stand in front of a text. A name goes on as long as it can, and a dollar
sign stands for itself only if no name begins behind it. -/
def Fits : SettingToken → List Char → Prop
  | .literal c, _ => c ≠ '$'
  | .dollar, after => ∀ c ∈ after.head?, c ≠ '\x7b' ∧ isNameChar c = false
  | .bare name, after =>
    name ≠ [] ∧ (∀ c ∈ name, isNameChar c = true) ∧ ∀ c ∈ after.head?, isNameChar c = false
  | .braced name closed, after => '\x7d' ∉ name ∧ (closed = false → after = [])

/-- A text, cut into tokens. -/
inductive Reads : List Char → List SettingToken → Prop
  | nil : Reads [] []
  | cons {token : SettingToken} {after : List Char} {tokens : List SettingToken}
      (h : token.Fits after) (rest : Reads after tokens) :
      Reads (token.render ++ after) (token :: tokens)

theorem ne_brace_of_isNameChar {c : Char} (h : isNameChar c = true) : c ≠ '\x7b' := by
  rintro rfl
  exact absurd h (by decide +kernel)

/-- A reference ends at the first closing brace. -/
theorem tokenize_closed {name : List Char} (h : '\x7d' ∉ name) (after : List Char) :
    tokenize ('$' :: '\x7b' :: (name ++ '\x7d' :: after)) =
      .braced name true :: tokenize after := by
  have htake : (name ++ '\x7d' :: after).takeWhile (· != '\x7d') = name :=
    takeWhile_bne_run h (by simp)
  have hdrop : (name ++ '\x7d' :: after).dropWhile (· != '\x7d') = '\x7d' :: after :=
    dropWhile_bne_run h (by simp)
  rw [tokenize]
  split
  · rename_i hnil
    rw [hdrop] at hnil
    cases hnil
  · rename_i c rest hcons
    rw [hdrop] at hcons
    cases hcons
    rw [htake]

/-- A reference without a closing brace goes on to the end of the text. -/
theorem tokenize_unclosed {name : List Char} (h : '\x7d' ∉ name) :
    tokenize ('$' :: '\x7b' :: name) = [.braced name false] := by
  have hdrop : name.dropWhile (· != '\x7d') = [] :=
    List.dropWhile_eq_nil_iff.mpr (forall_bne h)
  rw [tokenize]
  split
  · rfl
  · rename_i c rest hcons
    rw [hdrop] at hcons
    cases hcons

/-- A token is found again in front of any text that it fits. -/
theorem tokenize_render {token : SettingToken} {after : List Char} (h : token.Fits after) :
    tokenize (token.render ++ after) = token :: tokenize after := by
  cases token with
  | literal c =>
    have hc : c ≠ '$' := h
    rw [render, List.singleton_append, tokenize]
    · exact fun _ hdollar _ => hc hdollar
    · exact hc
  | dollar =>
    have htake : after.takeWhile isNameChar = [] :=
      takeWhile_run (List.forall_mem_nil _) fun c hc => (h c hc).2
    rw [render, List.singleton_append, tokenize, if_pos htake]
    rintro inner rfl
    exact (h '\x7b' rfl).1 rfl
  | bare name =>
    obtain ⟨hne, hname, hafter⟩ := h
    rw [render, List.cons_append, tokenize, takeWhile_run hname hafter, dropWhile_run hname hafter,
      if_neg hne]
    -- The name is not empty, so what follows the dollar sign is no brace.
    intro inner hbrace
    obtain ⟨c, name, rfl⟩ := List.exists_cons_of_ne_nil hne
    exact ne_brace_of_isNameChar (hname c List.mem_cons_self) (List.cons.inj hbrace).1
  | braced name closed =>
    obtain ⟨hname, hclosed⟩ := h
    cases closed with
    | true =>
      rw [render, if_pos rfl, List.cons_append, List.cons_append, List.append_assoc]
      exact tokenize_closed hname after
    | false =>
      cases hclosed rfl
      rw [render, if_neg Bool.false_ne_true, List.append_nil, List.append_nil]
      exact (tokenize_unclosed hname).trans (by rw [tokenize])

/-- A text is read as its tokens. -/
theorem reads_tokenize (text : List Char) : Reads text (tokenize text) := by
  fun_induction tokenize text with
  | case1 => exact .nil
  | case2 inner hdrop =>
    have hfits : Fits (.braced inner false) [] :=
      ⟨fun h => by simpa using List.dropWhile_eq_nil_iff.mp hdrop _ h, fun _ => rfl⟩
    simpa [render] using Reads.cons hfits .nil
  | case3 inner c after hdrop hlt ih =>
    have hc : c = '\x7d' := by
      simpa using head?_dropWhile (· != '\x7d') inner c (by rw [hdrop]; rfl)
    have hfits : Fits (.braced (inner.takeWhile (· != '\x7d')) true) after :=
      ⟨fun h => by simpa using List.mem_takeWhile_imp h, nofun⟩
    have hreads := Reads.cons hfits ih
    rw [render, if_pos rfl, List.cons_append, List.cons_append, List.append_assoc,
      List.singleton_append] at hreads
    rw [hc] at hdrop
    rwa [← hdrop, List.takeWhile_append_dropWhile] at hreads
  | case4 rest hbrace hnil ih =>
    suffices hfits : Fits .dollar rest from .cons hfits ih
    intro c hc
    constructor
    · rintro rfl
      exact hbrace _ (List.head?_eq_some_iff.mp hc).choose_spec
    · obtain ⟨after, rfl⟩ := List.head?_eq_some_iff.mp hc
      cases hname : isNameChar c with
      | false => rfl
      | true =>
        rw [List.takeWhile_cons_of_pos hname] at hnil
        cases hnil
  | case5 rest hbrace hne ih =>
    have hfits : Fits (.bare (rest.takeWhile isNameChar)) (rest.dropWhile isNameChar) :=
      ⟨hne, fun c hc => List.mem_takeWhile_imp hc, head?_dropWhile isNameChar rest⟩
    have hreads := Reads.cons hfits ih
    rwa [render, List.cons_append, List.takeWhile_append_dropWhile] at hreads
  | case6 c rest hbrace hdollar ih =>
    have hfits : Fits (.literal c) rest := hdollar
    exact .cons hfits ih

/-- A text can be read in one way only. -/
theorem reads_iff {text : List Char} {tokens : List SettingToken} :
    Reads text tokens ↔ tokens = tokenize text := by
  constructor
  · intro h
    induction h with
    | nil => rw [tokenize]
    | cons hfits _ ih => rw [tokenize_render hfits, ih]
  · rintro rfl
    exact reads_tokenize text

/-! ## Values -/

/-- The variable that a token refers to. -/
def name? : SettingToken → Option String
  | .literal _ => none
  | .dollar => none
  | .bare name => some (String.ofList name)
  | .braced name _ => some (String.ofList name)

/-- What a token stands for: itself, or the value of its variable. -/
inductive StandsFor (env : Environment) : SettingToken → String → Prop
  | literal (c : Char) : StandsFor env (.literal c) (String.singleton c)
  | dollar : StandsFor env .dollar "$"
  | reference {token : SettingToken} {name value : String} (hname : token.name? = some name)
      (hvalue : env.get? name = some value) : StandsFor env token value

variable {env : Environment} {token : SettingToken} {name : String}

theorem value_of_name? (h : token.name? = some name) :
    token.value env = value.reference env name := by
  cases token with
  | literal c => cases h
  | dollar => cases h
  | bare letters => cases h; rfl
  | braced letters closed => cases h; rfl

theorem value_of_missing (h : token.name? = some name) (hmissing : env.get? name = none) :
    token.value env = .error (.missingVariable name) := by
  rw [value_of_name? h, value.reference, hmissing]

/-- A token stands for a text unless the variable that it names is missing. -/
theorem exists_standsFor (h : ∀ name ∈ token.name?, env.get? name ≠ none) :
    ∃ text, StandsFor env token text ∧ token.value env = .ok text := by
  cases hname : token.name? with
  | none =>
    cases token with
    | literal c => exact ⟨_, .literal c, rfl⟩
    | dollar => exact ⟨_, .dollar, rfl⟩
    | bare letters => cases hname
    | braced letters closed => cases hname
  | some name =>
    obtain ⟨text, hvalue⟩ := Option.ne_none_iff_exists'.mp (h name hname)
    refine ⟨text, .reference hname hvalue, ?_⟩
    rw [value_of_name? hname, value.reference, hvalue]

/-- If no variable is missing, each token has its text. -/
theorem exists_values {tokens : List SettingToken}
    (h : ∀ name ∈ tokens.filterMap name?, env.get? name ≠ none) :
    ∃ values, List.Forall₂ (StandsFor env) tokens values ∧
      tokens.mapM (value env) = .ok values := by
  induction tokens with
  | nil => exact ⟨[], .nil, rfl⟩
  | cons token tokens ih =>
    have htoken : ∀ name ∈ token.name?, env.get? name ≠ none := fun name hname =>
      h name (List.mem_filterMap.mpr ⟨token, List.mem_cons_self, hname⟩)
    obtain ⟨text, htext, hvalue⟩ := exists_standsFor htoken
    obtain ⟨values, hvalues, hmap⟩ := ih fun name hname =>
      h name (List.filterMap_subset name? (List.subset_cons_self token tokens) hname)
    refine ⟨text :: values, .cons htext hvalues, ?_⟩
    rw [List.mapM_cons, hvalue, hmap]
    rfl

/-- The first variable that is missing ends it all. -/
theorem mapM_value_of_missing {tokens : List SettingToken} {before after : List String}
    (hnames : tokens.filterMap name? = before ++ name :: after)
    (hbefore : ∀ earlier ∈ before, env.get? earlier ≠ none) (hmissing : env.get? name = none) :
    tokens.mapM (value env) = .error (.missingVariable name) := by
  obtain ⟨front, rest, rfl, hfront, hrest⟩ := List.filterMap_eq_append_iff.mp hnames
  obtain ⟨plain, token, back, rfl, hplain, htoken, -⟩ := List.filterMap_eq_cons_iff.mp hrest
  have hset : ∀ earlier ∈ (front ++ plain).filterMap name?, env.get? earlier ≠ none := by
    intro earlier hmem
    rw [List.filterMap_append, hfront, List.filterMap_eq_nil_iff.mpr hplain,
      List.append_nil] at hmem
    exact hbefore earlier hmem
  obtain ⟨values, -, hvalues⟩ := exists_values hset
  rw [← List.append_assoc, List.mapM_append, hvalues, List.mapM_cons,
    value_of_missing htoken hmissing]
  rfl

end SettingToken

open SettingToken in
/-- A text has one reading, whatever the variables hold. If all variables it refers to are there,
the setting is what its tokens stand for, put together and not looked at again; otherwise the first
of them that is missing is reported. -/
theorem Environment.expand_reading (text : String) :
    ∃ tokens, Reads text.toList tokens ∧ (∀ other, Reads text.toList other → other = tokens) ∧
      ∀ env : Environment,
        ((∀ name ∈ tokens.filterMap name?, env.get? name ≠ none) →
          ∃ values, List.Forall₂ (StandsFor env) tokens values ∧
            env.expand text = .ok (String.join values)) ∧
        ∀ before name after, tokens.filterMap name? = before ++ name :: after →
          (∀ earlier ∈ before, env.get? earlier ≠ none) → env.get? name = none →
          env.expand text = .error (.missingVariable name) := by
  refine ⟨tokenize text.toList, reads_tokenize _, fun other h => reads_iff.mp h, fun env => ?_⟩
  constructor
  · intro hset
    obtain ⟨values, hvalues, hmap⟩ := exists_values hset
    refine ⟨values, hvalues, ?_⟩
    rw [expand, hmap]
    rfl
  · intro before name after hnames hbefore hmissing
    rw [expand, mapM_value_of_missing hnames hbefore hmissing]
    rfl

/-- A value with a reference in it stays as it is. -/
example : (Environment.mk [("A", "$B\x7d")]).expand "$$\x7bA\x7d$" = .ok "$$B\x7d$" := by
  decide +kernel

end CubeClient
