import TopologyVisualizer.Framework.Escaping
import TopologyVisualizer.Framework.Text
import TopologyVisualizer.Backend.Dispatch

/-! # Alert Channels

    `app/alerts/channels.py`: how a message is rendered for Slack and for
    Teams. Workload names are part of a message, so what is sent is escaped.

    Slack's escapes are three replacements one after the other. They do not
    disturb each other, because the ampersands are replaced first: together
    they are one escaping of single characters (`slackEscape_eq`). Teams'
    escape is the substitution of a character class by a backslash and the
    character. Both are schemes in the sense of `Escaping`, so a text can be
    read back and nothing in it acts as markup.
-/

namespace TopologyVisualizer.Backend.Channels

open Anomalies Dispatch Escaping

/-! ### Messages -/

/-- `_SEVERITY_MARK`. -/
def severityMark : AnomalySeverity → String
  | .critical => "🚨"
  | .warning => "⚠️"

/-- `Message.plain_text`. -/
def plainText (m : Message) : String :=
  "\n".intercalate ([m.title, ""] ++ m.lines ++ ["", m.footer] ++
    if m.link = "" then [] else [m.link])

/-! ### Slack -/

/-- `str.replace`, of one character. -/
def replace (s : String) (old : Char) (new : String) : String :=
  Text.substitute (fun c => if c = old then new else String.singleton c) s

/-- `_slack_escape`. -/
def slackEscape (text : String) : String :=
  replace (replace (replace text '&' "&amp;") '<' "&lt;") '>' "&gt;"

/-- The payload for Slack. -/
structure SlackBody where
  text : String
  mrkdwn : Bool

/-- The text of a message that Slack is sent. -/
def slackText (m : Message) : String := severityMark m.severity ++ " " ++ plainText m

/-- `slack_body`. -/
def slackBody (m : Message) : SlackBody where
  text := slackEscape (slackText m)
  mrkdwn := false

/-- What follows an ampersand for the characters that Slack requires escaped. -/
def slackCode (c : Char) : Option (List Char) :=
  if c = '&' then some ['a', 'm', 'p', ';']
  else if c = '<' then some ['l', 't', ';']
  else if c = '>' then some ['g', 't', ';']
  else none

theorem slackCode_eq_some {c : Char} {x : List Char} (h : slackCode c = some x) :
    (c = '&' ∧ x = ['a', 'm', 'p', ';']) ∨ (c = '<' ∧ x = ['l', 't', ';']) ∨
      (c = '>' ∧ x = ['g', 't', ';']) := by
  unfold slackCode at h
  split_ifs at h with hamp hlt hgt
  · exact .inl ⟨hamp, (Option.some.inj h).symm⟩
  · exact .inr (.inl ⟨hlt, (Option.some.inj h).symm⟩)
  · exact .inr (.inr ⟨hgt, (Option.some.inj h).symm⟩)

/-- The entities of Slack. -/
def slackEntities : Scheme Char where
  mark := '&'
  specials := ['&', '<', '>']
  code := slackCode
  listed := by
    intro c x h
    rcases slackCode_eq_some h with ⟨rfl, -⟩ | ⟨rfl, -⟩ | ⟨rfl, -⟩
    · exact List.mem_cons_self
    · exact List.mem_cons_of_mem _ List.mem_cons_self
    · exact List.mem_cons_of_mem _ (List.mem_cons_of_mem _ List.mem_cons_self)
  mark_escaped := by simp [slackCode]
  unambiguous := by
    intro c d x y hc hd hle
    -- the three codes begin with different letters
    have hhead : ∀ z w : Char, ∀ xs ys : List Char, z :: xs <+: w :: ys → z = w :=
      fun _ _ _ _ h => (List.cons_prefix_cons.mp h).1
    rcases slackCode_eq_some hc with ⟨rfl, rfl⟩ | ⟨rfl, rfl⟩ | ⟨rfl, rfl⟩ <;>
    rcases slackCode_eq_some hd with ⟨rfl, rfl⟩ | ⟨rfl, rfl⟩ | ⟨rfl, rfl⟩
    · rfl
    · exact absurd (hhead _ _ _ _ hle) (by decide)
    · exact absurd (hhead _ _ _ _ hle) (by decide)
    · exact absurd (hhead _ _ _ _ hle) (by decide)
    · rfl
    · exact absurd (hhead _ _ _ _ hle) (by decide)
    · exact absurd (hhead _ _ _ _ hle) (by decide)
    · exact absurd (hhead _ _ _ _ hle) (by decide)
    · rfl

/-- The three replacements together write every character as the scheme does. -/
theorem slackEscape_eq (s : String) :
    (slackEscape s).toList = slackEntities.escape s.toList := by
  have hchar : ∀ c, replace (replace (if c = '&' then "&amp;" else String.singleton c) '<' "&lt;")
      '>' "&gt;" = String.ofList (slackEntities.write c) := by
    intro c
    by_cases hamp : c = '&'
    · subst hamp
      decide +kernel
    by_cases hlt : c = '<'
    · subst hlt
      decide +kernel
    by_cases hgt : c = '>'
    · subst hgt
      decide +kernel
    have hcode : slackEntities.code c = none := by
      show slackCode c = none
      unfold slackCode
      rw [if_neg hamp, if_neg hlt, if_neg hgt]
    rw [Scheme.write_of_none hcode, if_neg hamp]
    simp [replace, Text.substitute, hlt, hgt]
  unfold slackEscape
  have hone : replace (replace (replace s '&' "&amp;") '<' "&lt;") '>' "&gt;" =
      Text.substitute (fun c => replace (replace (if c = '&' then "&amp;" else String.singleton c)
        '<' "&lt;") '>' "&gt;") s := by
    unfold replace
    simp only [Text.substitute_substitute]
  rw [hone, funext hchar]
  simp [Text.substitute, Scheme.escape]

/-! ### Teams -/

/-- The characters of `_TEAMS_MARKDOWN`. -/
def teamsMarkdown : List Char := ['\\', '\x60', '*', '_', '~', '[', ']']

/-- `_teams_escape`. -/
def teamsEscape (text : String) : String :=
  Text.substitute (fun c => if c ∈ teamsMarkdown then String.ofList ['\\', c]
    else String.singleton c) text

/-- A `TextBlock`. -/
structure TextBlock where
  text : String
  weight : Option String := none
  size : Option String := none
  isSubtle : Option Bool := none
  wrap : Bool := true

/-- The payload for Teams: the blocks of the card, and where its action leads. -/
structure TeamsBody where
  blocks : List TextBlock
  openUrl : Option String

/-- The block of a line. -/
def lineBlock (line : String) : TextBlock := { text := teamsEscape line }

/-- `teams_body`. -/
def teamsBody (m : Message) : TeamsBody where
  blocks :=
    [{ text := teamsEscape (severityMark m.severity ++ " " ++ m.title)
       weight := some "Bolder"
       size := some "Medium" }] ++
    m.lines.map lineBlock ++
    [{ text := teamsEscape m.footer
       isSubtle := some true
       size := some "Small" }]
  openUrl := if m.link = "" then none else some m.link

/-- The backslash escapes of Teams. -/
def teamsBackslashes : Scheme Char where
  mark := '\\'
  specials := teamsMarkdown
  code := fun c => if c ∈ teamsMarkdown then some [c] else none
  listed := by
    intro c x h
    split_ifs at h with hc
    exact hc
  mark_escaped := by simp [teamsMarkdown]
  unambiguous := by
    intro c d x y hc hd hle
    split_ifs at hc hd
    obtain rfl := Option.some.inj hc
    obtain rfl := Option.some.inj hd
    exact (List.cons_prefix_cons.mp hle).1

theorem teamsEscape_eq (s : String) :
    (teamsEscape s).toList = teamsBackslashes.escape s.toList := by
  have hchar : ∀ c, (if c ∈ teamsMarkdown then String.ofList ['\\', c]
      else String.singleton c).toList = teamsBackslashes.write c := by
    intro c
    by_cases hc : c ∈ teamsMarkdown
    · rw [if_pos hc, Scheme.write_of_some (x := [c]) (if_pos hc), String.toList_ofList]
      rfl
    · rw [if_neg hc, Scheme.write_of_none (if_neg hc), String.toList_singleton]
  unfold teamsEscape Text.substitute
  rw [String.toList_ofList, funext hchar]
  rfl

/-! ### Inert and lossless -/

/-- A text read back from Slack's entities. -/
def slackUnescape (s : String) : String := String.ofList (slackEntities.unescape s.toList)

/-- A text read back from Teams' backslashes. -/
def teamsUnescape (s : String) : String := String.ofList (teamsBackslashes.unescape s.toList)

theorem slackUnescape_slackEscape (s : String) : slackUnescape (slackEscape s) = s := by
  rw [slackUnescape, slackEscape_eq, Scheme.unescape_escape, String.ofList_toList]

theorem teamsUnescape_teamsEscape (s : String) : teamsUnescape (teamsEscape s) = s := by
  rw [teamsUnescape, teamsEscape_eq, Scheme.unescape_escape, String.ofList_toList]

theorem slackEscape_injective : Function.Injective slackEscape :=
  Function.LeftInverse.injective slackUnescape_slackEscape

theorem teamsEscape_injective : Function.Injective teamsEscape :=
  Function.LeftInverse.injective teamsUnescape_teamsEscape

/-- The title tells the severity. -/
theorem marked_title_inj {severity severity' : AnomalySeverity} {title title' : String}
    (h : severityMark severity ++ " " ++ title = severityMark severity' ++ " " ++ title') :
    severity = severity' ∧ title = title' := by
  have hchars := congrArg String.toList h
  simp only [String.toList_append] at hchars
  cases severity with
  | critical =>
    cases severity' with
    | critical => exact ⟨rfl, String.toList_inj.mp (List.append_cancel_left hchars)⟩
    | warning => exact absurd (List.cons.inj hchars).1 (by decide)
  | warning =>
    cases severity' with
    | critical => exact absurd (List.cons.inj hchars).1 (by decide)
    | warning => exact ⟨rfl, String.toList_inj.mp (List.append_cancel_left hchars)⟩

/-- Different messages are different cards. -/
theorem teamsBody_injective : Function.Injective teamsBody := by
  intro m m' h
  have hblocks := congrArg TeamsBody.blocks h
  have hlink := congrArg TeamsBody.openUrl h
  unfold teamsBody at hblocks hlink
  obtain ⟨htop, hfooter⟩ := List.append_inj' hblocks rfl
  obtain ⟨htitle, hlines⟩ := List.cons.inj htop
  obtain ⟨hseverity, htitle⟩ :=
    marked_title_inj (teamsEscape_injective (congrArg TextBlock.text htitle))
  have hfooter : m.footer = m'.footer :=
    teamsEscape_injective (congrArg TextBlock.text (List.cons.inj hfooter).1)
  have hline : Function.Injective lineBlock :=
    fun _ _ heq => teamsEscape_injective (congrArg TextBlock.text heq)
  have hlines : m.lines = m'.lines := List.map_injective_iff.mpr hline hlines
  have hlink : m.link = m'.link := by
    simp only at hlink
    split_ifs at hlink with h₁ h₂ h₂
    · rw [h₁, h₂]
    · exact Option.some.inj hlink
  cases m
  cases m'
  simp only at hseverity htitle hlines hfooter hlink
  rw [hseverity, htitle, hlines, hfooter, hlink]

/-- None of the three characters is in a code. -/
theorem notMem_slackCode {c d : Char} {x : List Char} (hc : c ∈ slackEntities.specials)
    (hx : slackEntities.code d = some x) : c ∉ x := by
  have hc : c = '&' ∨ c = '<' ∨ c = '>' := by simpa [slackEntities] using hc
  rcases slackCode_eq_some hx with ⟨-, rfl⟩ | ⟨-, rfl⟩ | ⟨-, rfl⟩
  · rcases hc with rfl | rfl | rfl <;> decide
  · rcases hc with rfl | rfl | rfl <;> decide
  · rcases hc with rfl | rfl | rfl <;> decide

theorem slack_brackets (s : String) :
    '<' ∉ (slackEscape s).toList ∧ '>' ∉ (slackEscape s).toList := by
  rw [slackEscape_eq]
  constructor
  · exact Scheme.notMem_escape (by decide) (by decide) (fun d x => notMem_slackCode (by decide)) _
  · exact Scheme.notMem_escape (by decide) (by decide) (fun d x => notMem_slackCode (by decide)) _

theorem slack_ampersand {s : String} {before after : List Char}
    (h : (slackEscape s).toList = before ++ '&' :: after) :
    ∃ entity ∈ ["amp;", "lt;", "gt;"], entity.toList <+: after := by
  rw [slackEscape_eq] at h
  obtain ⟨c, x, hx, hle⟩ := Scheme.code_after_mark
    (fun d x => notMem_slackCode (c := slackEntities.mark) List.mem_cons_self) h
  rcases slackCode_eq_some hx with ⟨-, rfl⟩ | ⟨-, rfl⟩ | ⟨-, rfl⟩
  · exact ⟨"amp;", by simp, hle⟩
  · exact ⟨"lt;", by simp, hle⟩
  · exact ⟨"gt;", by simp, hle⟩

theorem teamsCode_of_mem {c : Char} (h : c ∈ teamsMarkdown) :
    teamsBackslashes.code c = some [c] := if_pos h

theorem teamsCode_length {c : Char} {x : List Char} (h : teamsBackslashes.code c = some x) :
    x.length = 1 := by
  by_cases hc : c ∈ teamsMarkdown
  · rw [teamsCode_of_mem hc] at h
    rw [← Option.some.inj h, List.length_singleton]
  · have hnone : teamsBackslashes.code c = none := if_neg hc
    rw [hnone] at h
    cases h

theorem teams_markdown {s : String} {before after : List (Char × Scheme.Role)} {c : Char}
    {role : Scheme.Role}
    (h : teamsBackslashes.roles (teamsEscape s).toList = before ++ (c, role) :: after)
    (hc : c ∈ teamsMarkdown) (hrole : role ≠ .mark) :
    ∃ earlier, before = earlier ++ [(teamsBackslashes.mark, .mark)] := by
  rw [teamsEscape_eq] at h
  cases role with
  | mark => exact absurd rfl hrole
  | code => exact Scheme.mark_before_code (fun d x => teamsCode_length) h
  | plain =>
    have hmem : (c, Scheme.Role.plain) ∈
        teamsBackslashes.roles (teamsBackslashes.escape s.toList) := by
      rw [h]
      exact List.mem_append_right before List.mem_cons_self
    have hspecial : teamsBackslashes.code c ≠ none := by
      rw [teamsCode_of_mem hc]
      exact Option.some_ne_none _
    exact absurd rfl (Scheme.escaped_role hspecial hmem)

/-- **Escaping** is inert and loses nothing. What is sent to Slack has no angle brackets, every
    ampersand of it begins one of the three entities, and replacing these gives the text back.
    What is sent to Teams has every Markdown character that is not an escaping backslash right
    after one, and removing these gives the text back. So different texts are rendered
    differently, in both channels. -/
theorem alert_escapes_inert :
    (∀ s : String,
      '<' ∉ (slackEscape s).toList ∧ '>' ∉ (slackEscape s).toList ∧
      (∀ before after, (slackEscape s).toList = before ++ '&' :: after →
        ∃ entity ∈ ["amp;", "lt;", "gt;"], entity.toList <+: after) ∧
      slackUnescape (slackEscape s) = s) ∧
    (∀ s : String,
      (teamsBackslashes.roles (teamsEscape s).toList).map Prod.fst = (teamsEscape s).toList ∧
      (∀ before c role after,
        teamsBackslashes.roles (teamsEscape s).toList = before ++ (c, role) :: after →
        c ∈ teamsMarkdown → role ≠ .mark → ∃ earlier, before = earlier ++ [('\\', .mark)]) ∧
      teamsUnescape (teamsEscape s) = s) ∧
    (∀ m m' : Message, slackBody m = slackBody m' → slackText m = slackText m') ∧
    (∀ m m' : Message, teamsBody m = teamsBody m' → m = m') := by
  refine ⟨?_, ?_, ?_, ?_⟩
  · intro s
    exact ⟨(slack_brackets s).1, (slack_brackets s).2, fun _ _ => slack_ampersand,
      slackUnescape_slackEscape s⟩
  · intro s
    exact ⟨Scheme.map_fst_roles _, fun _ _ _ _ => teams_markdown, teamsUnescape_teamsEscape s⟩
  · intro m m' h
    simp only [slackBody, SlackBody.mk.injEq, and_true] at h
    exact slackEscape_injective h
  · intro m m' h
    exact teamsBody_injective h

/-- A workload called after a mention and a link. -/
theorem alert_escapes_mention :
    slackEscape "<!here> & [a](b)" = "&lt;!here&gt; &amp; [a](b)" ∧
    slackUnescape "&lt;!here&gt; &amp; [a](b)" = "<!here> & [a](b)" ∧
    teamsEscape "<!here> & [a](b)" = "<!here> & \\[a\\](b)" ∧
    teamsUnescape "<!here> & \\[a\\](b)" = "<!here> & [a](b)" := by
  have hslack : slackEscape "<!here> & [a](b)" = "&lt;!here&gt; &amp; [a](b)" := by decide +kernel
  have hteams : teamsEscape "<!here> & [a](b)" = "<!here> & \\[a\\](b)" := by decide +kernel
  refine ⟨hslack, ?_, hteams, ?_⟩
  · rw [← hslack]
    exact (alert_escapes_inert.1 _).2.2.2
  · rw [← hteams]
    exact (alert_escapes_inert.2.1 _).2.2

end TopologyVisualizer.Backend.Channels
