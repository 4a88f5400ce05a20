import Innovents.Notifications.EmailTemplateService

namespace Innovents.Notifications

open Innovents.Lib Innovents.Lib.Markup EmailTemplateService

section Pages

variable {content content' : Template JsValue} {dir : Language}

theorem greeting_walks (lang : Language) (recipientName : JsValue) :
    Walks .data (greeting lang recipientName) .data := by
  cases lang with
  | en | ar => exact .lit (.val rfl (.lit (.nil (by decide))))

theorem wrapHtml_walks (h : Walks .data content .data) : Walks .data (wrapHtml content dir) .data := by
  refine Walks.append (Walks.append ?_ h) ?_
  · cases dir with
    | en | ar =>
      repeat refine .lit ?_
      exact .nil (by decide +kernel)
  · repeat refine .lit ?_
    exact .nil (by decide +kernel)

theorem wrapHtml_shape (h : content.map Piece.shape = content'.map Piece.shape) :
    (wrapHtml content dir).map Piece.shape = (wrapHtml content' dir).map Piece.shape := by
  simp only [wrapHtml, List.map_append, h]

/-- The lines of every page are read one by one: each begins and ends between tags, and shows its
values between tags or in quotes. -/
theorem renders_walks (type : NotificationType) (ctx : EmailTemplateContext) (lang : Language)
    (recipientName : JsValue) : Walks .data (renders type ctx lang recipientName).html .data := by
  cases type <;> cases lang <;> refine wrapHtml_walks (walks_lines ?_) <;>
    simp only [List.forall_mem_cons]
  all_goals
    repeat' apply And.intro
  all_goals first
    | exact List.forall_mem_nil _
    | exact greeting_walks _ _
    | repeat' first
        | apply Walks.lit
        | refine Walks.val (by decide +kernel) ?_
        | apply Walks.nil
  all_goals decide +kernel

theorem renders_shape (type : NotificationType) (ctx ctx' : EmailTemplateContext) (lang : Language)
    (recipientName recipientName' : JsValue) :
    (renders type ctx lang recipientName).html.map Piece.shape =
      (renders type ctx' lang recipientName').html.map Piece.shape := by
  cases type <;> cases lang <;> refine wrapHtml_shape ?_ <;> rfl

theorem email_shape {type : NotificationType} {ctx ctx' : EmailTemplateContext}
    (h : language ctx' = language ctx) :
    (email type ctx).html.map Piece.shape = (email type ctx').html.map Piece.shape := by
  unfold email
  rw [h]
  exact renders_shape type ctx ctx' (language ctx) _ _

end Pages

/-- The page has its values only in their escaped form. -/
def HtmlEscaped (sp : Spelling) (type : NotificationType) (ctx : EmailTemplateContext) : Prop :=
  (render sp type ctx).html = (email type ctx).html.fill fun v ↦ escape (sp.spelled v)

/-- None of the values that the page shows has a character with a meaning in HTML. -/
def ShowsPlain (sp : Spelling) (type : NotificationType) (ctx : EmailTemplateContext) : Prop :=
  ∀ v ∈ Template.values (email type ctx).html, IsPlain (sp.spelled v)

/-- A page has its values in their escaped form exactly if there is nothing to escape in them, and
pages that have them so in one language have the same tags. -/
theorem html_escaped_iff (sp : Spelling) (type : NotificationType) (ctx : EmailTemplateContext) :
    (HtmlEscaped sp type ctx ↔ ShowsPlain sp type ctx) ∧
      ∀ ctx', language ctx' = language ctx → HtmlEscaped sp type ctx → HtmlEscaped sp type ctx' →
        tagStructure (render sp type ctx).html = tagStructure (render sp type ctx').html := by
  refine ⟨fill_escape_iff, fun ctx' hlang hctx hctx' ↦ ?_⟩
  rw [show (render sp type ctx).html = _ from hctx, show (render sp type ctx').html = _ from hctx']
  exact (renders_walks type ctx _ _).tagStructure_escaped (email_shape hlang)

section Sample

def sampleSpelling : Spelling where
  number q := toString q.num
  date _ := "Thu Jan 01 1970"
  record _ := "[object Object]"

def named (recipientName : String) : EmailTemplateContext where
  recipientName := some recipientName
  title := none
  body := none
  data := .undefined
  language := none

/-- An approved account, of which the letter shows the name only. -/
theorem approval_values {name : String} (h : name ≠ "") :
    Template.values (email .accountApproved (named name)).html = [.str name] := by
  have hname : (JsValue.str name).or (.str "Valued User") = .str name := by
    rw [JsValue.or, if_pos]
    exact bne_iff_ne.mpr h
  change [(JsValue.str name).or (.str "Valued User")] = _
  rw [hname]

theorem approval_escaped {name : String} (h : name ≠ "") :
    HtmlEscaped sampleSpelling .accountApproved (named name) ↔ IsPlain name := by
  refine fill_escape_iff.trans ?_
  rw [approval_values h, List.forall_mem_singleton]
  rfl

/-- Two people get the same letter. -/
theorem approvals_alike : HtmlEscaped sampleSpelling .accountApproved (named "Sarah") ∧
    tagStructure (render sampleSpelling .accountApproved (named "Sarah")).html =
      tagStructure (render sampleSpelling .accountApproved (named "Ahmed")).html := by
  have hsarah : HtmlEscaped sampleSpelling .accountApproved (named "Sarah") :=
    (approval_escaped (by decide)).mpr (by decide)
  have hahmed : HtmlEscaped sampleSpelling .accountApproved (named "Ahmed") :=
    (approval_escaped (by decide)).mpr (by decide)
  exact ⟨hsarah, (html_escaped_iff sampleSpelling .accountApproved (named "Sarah")).2
    (named "Ahmed") rfl hsarah hahmed⟩

theorem length_tags {type : NotificationType} {ctx : EmailTemplateContext} {n : ℕ}
    (h : ∃ s, Scans sampleSpelling.spelled .start (email type ctx).html s ∧ s.tags.length = n) :
    (tagStructure (render sampleSpelling type ctx).html).length = n := by
  obtain ⟨s, hs, rfl⟩ := h
  exact congrArg (fun q : Scan ↦ q.tags.length) hs.foldl_eq

/-- A name that is markup adds its tags to the letter. -/
theorem markup_in_name :
    (tagStructure (render sampleSpelling .accountApproved (named "Eve")).html).length = 24 ∧
      (tagStructure (render sampleSpelling .accountApproved (named "<b>Eve</b>")).html).length =
        26 := by
  constructor
  all_goals
    apply length_tags
    apply Exists.intro
    apply And.intro
    · apply Scans.append
      · apply Scans.append
        · repeat apply Scans.lit
          exact Scans.nil rfl
        · repeat apply Scans.lit
          apply Scans.val
          · rfl
          repeat apply Scans.lit
          exact Scans.nil rfl
      · repeat apply Scans.lit
        exact Scans.nil rfl
    · decide +kernel

/-- The letter to somebody whose name is markup has the name as it is. -/
theorem injected_letter : ¬ ∀ (sp : Spelling) (type : NotificationType)
    (ctx ctx' : EmailTemplateContext), language ctx' = language ctx →
      HtmlEscaped sp type ctx ∧
        tagStructure (render sp type ctx).html = tagStructure (render sp type ctx').html := by
  intro h
  have hsame := (h sampleSpelling .accountApproved (named "Eve") (named "<b>Eve</b>") rfl).2
  have hlength := congrArg List.length hsame
  rw [markup_in_name.1, markup_in_name.2] at hlength
  cases hlength

end Sample

end Innovents.Notifications
