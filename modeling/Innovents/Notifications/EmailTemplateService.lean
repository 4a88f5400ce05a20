import Innovents.Lib.Markup
import Innovents.Notifications.Schema

namespace Innovents.Notifications

open Innovents.Lib Innovents.Lib.Markup

structure RenderedEmail where
  subject : String
  html : String
  text : String

structure EmailTemplateContext where
  recipientName : Option String
  title : Option String
  body : Option String
  data : JsValue
  language : Option String

inductive Language
  | en | ar
  deriving DecidableEq

def Language.text : Language → String
  | en => "en"
  | ar => "ar"

/-- How a template literal spells numbers, dates and records. -/
structure Spelling where
  number : ℚ → String
  date : ℤ → String
  record : List (String × JsValue) → String

namespace Spelling

mutual

/-- `String(value)` -/
def spelled (sp : Spelling) : JsValue → String
  | .undefined => "undefined"
  | .null => "null"
  | .bool b => if b then "true" else "false"
  | .num q => sp.number q
  | .str s => s
  | .date ms => sp.date ms
  | .arr items => joined sp items
  | .obj fields => sp.record fields

/-- `items.join(',')` -/
def joined (sp : Spelling) : List JsValue → String
  | [] => ""
  | [item] => if item.isNullish then "" else spelled sp item
  | item :: items => (if item.isNullish then "" else spelled sp item) ++ "," ++ joined sp items

end

end Spelling

/-- A subject, a page and a text as the templates they are written as. -/
structure Email where
  subject : Template JsValue
  text : Template JsValue
  html : Template JsValue

def Email.rendered (sp : Spelling) (email : Email) : RenderedEmail where
  subject := email.subject.fill sp.spelled
  html := email.html.fill sp.spelled
  text := email.text.fill sp.spelled

namespace EmailTemplateService

def orUndefined : Option String → JsValue
  | some s => .str s
  | none => .undefined

def wrapHtml (content : Template JsValue) (dir : Language) : Template JsValue :=
  let direction := match dir with
    | .ar => "rtl"
    | .en => "ltr"
  let align := match dir with
    | .ar => "right"
    | .en => "left"
  [.lit "<!DOCTYPE html>\n<html lang=\"", .lit dir.text, .lit "\" dir=\"", .lit direction,
    .lit "\">\n<head>\n  <meta charset=\"utf-8\">\n  <style>\n    body \x7b font-family: ",
    .lit "-apple-system, BlinkMacSystemFont, 'Segoe UI', Roboto, Helvetica, Arial, sans-serif; ",
    .lit "background: #f4f5f7; color: #172b4d; margin: 0; padding: 24px; direction: ",
    .lit direction, .lit "; text-align: ", .lit align,
    .lit "; \x7d\n    .card \x7b max-width: 600px; margin: 0 auto; background: #ffffff; ",
    .lit "border-radius: 8px; padding: 32px; box-shadow: 0 2px 4px rgba(0,0,0,0.08); \x7d\n",
    .lit "    h2 \x7b color: #0052cc; margin-top: 0; \x7d\n    blockquote \x7b border-", .lit align,
    .lit ": 4px solid #0052cc; margin: 16px 0; padding: 8px 16px; background: #f8f9fa; ",
    .lit "font-style: italic; \x7d\n    .footer \x7b margin-top: 24px; font-size: 12px; ",
    .lit "color: #6b778c; text-align: center; \x7d\n  </style>\n</head>\n<body>\n",
    .lit "  <div class=\"card\">\n    "] ++ content ++
  [.lit "\n    <div class=\"footer\">\n",
    .lit "      <p>© 2026 INOVENT Smart Event Ecosystem. All rights reserved.</p>\n",
    .lit "    </div>\n  </div>\n</body>\n</html>"]

/-- The second line of every page. -/
def greeting (lang : Language) (recipientName : JsValue) : Template JsValue :=
  match lang with
  | .ar => [.lit "<p>مرحباً <strong>", .val recipientName, .lit "</strong>،</p>"]
  | .en => [.lit "<p>Hello <strong>", .val recipientName, .lit "</strong>,</p>"]

def renderSessionReminder (ctx : EmailTemplateContext) (lang : Language)
    (recipientName : JsValue) : Email :=
  let sessionTitle :=
    ((ctx.data.get "sessionTitle").or (orUndefined ctx.title)).or (.str "Upcoming Session")
  let startsAt := (ctx.data.get "startsAt").or (.str "")
  match lang with
  | .ar =>
    { subject := [.lit "تذكير: جلستك القادمة تبدأ قريباً — ", .val sessionTitle]
      text := [.lit "مرحباً ", .val recipientName, .lit "،\n\nنود تذكيرك بأن الجلسة \"",
        .val sessionTitle, .lit "\" ستبدأ قريباً في ", .val startsAt,
        .lit ".\n\nنتمنى لك وقتاً مفيداً!\nفريق إينوفنت"]
      html := wrapHtml (.lines 9
        [[.lit "<h2>تذكير ببدء الجلسة</h2>"],
          greeting .ar recipientName,
          [.lit "<p>نود تذكيرك بأن الجلسة <strong>\"", .val sessionTitle,
            .lit "\"</strong> ستبدأ خلال 15 دقيقة.</p>"],
          [.lit "<p><strong>الوقت:</strong> ", .val startsAt, .lit "</p>"],
          [.lit "<p>يرجى التواجد في القاعة المحددة.</p>"]]) .ar }
  | .en =>
    { subject := [.lit "Reminder: Your session starts soon — ", .val sessionTitle]
      text := [.lit "Hello ", .val recipientName, .lit ",\n\nThis is a reminder that \"",
        .val sessionTitle, .lit "\" will begin in 15 minutes (", .val startsAt,
        .lit ").\n\nBest regards,\nThe INOVENT Team"]
      html := wrapHtml (.lines 7
        [[.lit "<h2>Session Starting Soon</h2>"],
          greeting .en recipientName,
          [.lit "<p>This is a reminder that your scheduled session <strong>\"", .val sessionTitle,
            .lit "\"</strong> is starting in 15 minutes.</p>"],
          [.lit "<p><strong>Scheduled Time:</strong> ", .val startsAt, .lit "</p>"],
          [.lit "<p>Please make your way to the designated venue.</p>"]]) .en }

def renderEventCancelled (ctx : EmailTemplateContext) (lang : Language)
    (recipientName : JsValue) : Email :=
  let eventName := ((ctx.data.get "eventName").or (orUndefined ctx.title)).or (.str "Event")
  match lang with
  | .ar =>
    { subject := [.lit "إشعار مهم: تم إلغاء الفعالية — ", .val eventName]
      text := [.lit "مرحباً ", .val recipientName,
        .lit "،\n\nنأسف لإبلاغك بأنه قد تم إلغاء الفعالية \"", .val eventName,
        .lit "\".\n\nفريق إينوفنت"]
      html := wrapHtml (.lines 9
        [[.lit "<h2>إشعار إلغاء الفعالية</h2>"],
          greeting .ar recipientName,
          [.lit "<p>نأسف لإبلاغك بأن الفعالية <strong>\"", .val eventName,
            .lit "\"</strong> قد تم إلغاؤها من قبل المنظمين.</p>"]]) .ar }
  | .en =>
    { subject := [.lit "Important Notice: Event Cancelled — ", .val eventName]
      text := [.lit "Hello ", .val recipientName, .lit ",\n\nWe regret to inform you that \"",
        .val eventName, .lit "\" has been cancelled.\n\nBest regards,\nThe INOVENT Team"]
      html := wrapHtml (.lines 7
        [[.lit "<h2>Event Cancellation Notice</h2>"],
          greeting .en recipientName,
          [.lit "<p>We regret to inform you that the event <strong>\"", .val eventName,
            .lit "\"</strong> has been cancelled by the organizers.</p>"]]) .en }

def renderCommunityMention (ctx : EmailTemplateContext) (lang : Language)
    (recipientName : JsValue) : Email :=
  let actorName := (ctx.data.get "actorName").or (.str "Someone")
  match lang with
  | .ar =>
    { subject := [.lit "قام ", .val actorName, .lit " بالإشارة إليك في المجتمع"]
      text := [.lit "مرحباً ", .val recipientName, .lit "، قام ", .val actorName,
        .lit " بالإشارة إليك في منشور بالمجتمع.\n\n", .val ((orUndefined ctx.body).or (.str ""))]
      html := wrapHtml (.lines 9
        [[.lit "<h2>إشارة جديدة</h2>"],
          greeting .ar recipientName,
          [.lit "<p>قام <strong>", .val actorName, .lit "</strong> بالإشارة إليك:</p>"],
          [.lit "<blockquote>", .val ((orUndefined ctx.body).or (.str "")),
            .lit "</blockquote>"]]) .ar }
  | .en =>
    { subject := [.val actorName, .lit " mentioned you in a community"]
      text := [.lit "Hello ", .val recipientName, .lit ",\n\n", .val actorName,
        .lit " mentioned you in a community post:\n\n", .val ((orUndefined ctx.body).or (.str ""))]
      html := wrapHtml (.lines 7
        [[.lit "<h2>New Mention</h2>"],
          greeting .en recipientName,
          [.lit "<p><strong>", .val actorName, .lit "</strong> mentioned you in a community:</p>"],
          [.lit "<blockquote>", .val ((orUndefined ctx.body).or (.str "")),
            .lit "</blockquote>"]]) .en }

def renderCommunityReply (ctx : EmailTemplateContext) (lang : Language)
    (recipientName : JsValue) : Email :=
  let replierName := (ctx.data.get "replierName").or (.str "Someone")
  match lang with
  | .ar =>
    { subject := [.lit "رد جديد من ", .val replierName, .lit " على منشورك"]
      text := [.lit "مرحباً ", .val recipientName, .lit "، قام ", .val replierName,
        .lit " بالرد على منشورك:\n\n", .val ((orUndefined ctx.body).or (.str ""))]
      html := wrapHtml (.lines 9
        [[.lit "<h2>رد جديد على منشورك</h2>"],
          greeting .ar recipientName,
          [.lit "<p>قام <strong>", .val replierName, .lit "</strong> بالرد على منشورك:</p>"],
          [.lit "<blockquote>", .val ((orUndefined ctx.body).or (.str "")),
            .lit "</blockquote>"]]) .ar }
  | .en =>
    { subject := [.lit "New reply from ", .val replierName, .lit " on your post"]
      text := [.lit "Hello ", .val recipientName, .lit ",\n\n", .val replierName,
        .lit " replied to your post:\n\n", .val ((orUndefined ctx.body).or (.str ""))]
      html := wrapHtml (.lines 7
        [[.lit "<h2>New Reply</h2>"],
          greeting .en recipientName,
          [.lit "<p><strong>", .val replierName, .lit "</strong> replied to your post:</p>"],
          [.lit "<blockquote>", .val ((orUndefined ctx.body).or (.str "")),
            .lit "</blockquote>"]]) .en }

def renderMeetupCreated (ctx : EmailTemplateContext) (lang : Language)
    (recipientName : JsValue) : Email :=
  let meetupTitle :=
    ((ctx.data.get "meetupTitle").or (orUndefined ctx.title)).or (.str "New Meetup")
  match lang with
  | .ar =>
    { subject := [.lit "لقاء مجتمعي جديد: ", .val meetupTitle]
      text := [.lit "مرحباً ", .val recipientName, .lit "، تم إنشاء لقاء جديد \"", .val meetupTitle,
        .lit "\"."]
      html := wrapHtml (.lines 9
        [[.lit "<h2>لقاء مجتمعي جديد</h2>"],
          greeting .ar recipientName,
          [.lit "<p>تم الإعلان عن لقاء مجتمعي جديد: <strong>", .val meetupTitle,
            .lit "</strong>.</p>"]]) .ar }
  | .en =>
    { subject := [.lit "New Community Meetup: ", .val meetupTitle]
      text := [.lit "Hello ", .val recipientName, .lit ",\n\nA new community meetup \"",
        .val meetupTitle, .lit "\" has been scheduled."]
      html := wrapHtml (.lines 7
        [[.lit "<h2>New Community Meetup</h2>"],
          greeting .en recipientName,
          [.lit "<p>A new community meetup <strong>\"", .val meetupTitle,
            .lit "\"</strong> has been scheduled.</p>"]]) .en }

def renderMeetupReminder (ctx : EmailTemplateContext) (lang : Language)
    (recipientName : JsValue) : Email :=
  let meetupTitle := ((ctx.data.get "meetupTitle").or (orUndefined ctx.title)).or (.str "Meetup")
  match lang with
  | .ar =>
    { subject := [.lit "تذكير: لقاء \"", .val meetupTitle, .lit "\" يبدأ قريباً"]
      text := [.lit "مرحباً ", .val recipientName, .lit "، نود تذكيرك بأن اللقاء المجتمعي \"",
        .val meetupTitle, .lit "\" سيبدأ خلال 15 دقيقة."]
      html := wrapHtml (.lines 9
        [[.lit "<h2>تذكير باللقاء المجتمعي</h2>"],
          greeting .ar recipientName,
          [.lit "<p>لقاؤك المجتمعي <strong>\"", .val meetupTitle,
            .lit "\"</strong> سيبدأ خلال 15 دقيقة.</p>"]]) .ar }
  | .en =>
    { subject := [.lit "Reminder: Meetup \"", .val meetupTitle, .lit "\" starts soon"]
      text := [.lit "Hello ", .val recipientName, .lit ",\n\nThis is a reminder that the meetup \"",
        .val meetupTitle, .lit "\" will begin in 15 minutes."]
      html := wrapHtml (.lines 7
        [[.lit "<h2>Meetup Starting Soon</h2>"],
          greeting .en recipientName,
          [.lit "<p>Your community meetup <strong>\"", .val meetupTitle,
            .lit "\"</strong> is starting in 15 minutes.</p>"]]) .en }

def renderModerationAction (ctx : EmailTemplateContext) (lang : Language)
    (recipientName : JsValue) : Email :=
  match lang with
  | .ar =>
    { subject := [.lit "إشعار إشراف في المجتمع"]
      text := [.lit "مرحباً ", .val recipientName,
        .lit "، تم اتخاذ إجراء إشرافي بخصوص حسابك أو منشورك:\n\n",
        .val ((orUndefined ctx.body).or (.str ""))]
      html := wrapHtml (.lines 9
        [[.lit "<h2>إشعار إشراف</h2>"],
          greeting .ar recipientName,
          [.lit "<p>",
            .val ((orUndefined ctx.body).or (.str "تم اتخاذ إجراء إشرافي بخصوص نشاطك في المجتمع.")),
            .lit "</p>"]]) .ar }
  | .en =>
    { subject := [.lit "Community Moderation Notice"]
      text := [.lit "Hello ", .val recipientName,
        .lit ",\n\nA moderation action was taken regarding your activity:\n\n",
        .val ((orUndefined ctx.body).or (.str ""))]
      html := wrapHtml (.lines 7
        [[.lit "<h2>Moderation Notice</h2>"],
          greeting .en recipientName,
          [.lit "<p>",
            .val ((orUndefined ctx.body).or
              (.str "A moderation action has been taken regarding your community activity.")),
            .lit "</p>"]]) .en }

def renderSecurityPasswordReset (_ctx : EmailTemplateContext) (lang : Language)
    (recipientName : JsValue) : Email :=
  match lang with
  | .ar =>
    { subject := [.lit "تنبيه أمني: تم تغيير كلمة المرور بنجاح"]
      text := [.lit "مرحباً ", .val recipientName,
        .lit "، تم تغيير كلمة المرور لحسابك في إينوفنت. إذا لم تكن أنت من قام بهذا، يرجى ",
        .lit "التواصل معنا فوراً."]
      html := wrapHtml (.lines 9
        [[.lit "<h2>تنبيه أمني</h2>"],
          greeting .ar recipientName,
          [.lit "<p>تم تغيير كلمة المرور لحسابك بنجاح. إذا لم تكن أنت من قام بهذا الإجراء، ",
            .lit "يرجى إعادة تعيين كلمة المرور فوراً والتواصل مع الدعم الفني.</p>"]]) .ar }
  | .en =>
    { subject := [.lit "Security Alert: Your Password Was Changed"]
      text := [.lit "Hello ", .val recipientName,
        .lit ",\n\nYour INOVENT account password was recently changed. If you did not ",
        .lit "make this change, please contact support immediately."]
      html := wrapHtml (.lines 7
        [[.lit "<h2>Security Alert</h2>"],
          greeting .en recipientName,
          [.lit "<p>Your INOVENT account password was recently changed. If you did not ",
            .lit "initiate this request, please reset your password immediately and contact ",
            .lit "support.</p>"]]) .en }

def renderAccountApproved (_ctx : EmailTemplateContext) (lang : Language)
    (recipientName : JsValue) : Email :=
  match lang with
  | .ar =>
    { subject := [.lit "تهانينا! تمت الموافقة على حسابك في إينوفنت"]
      text := [.lit "مرحباً ", .val recipientName,
        .lit "، تمت مراجعة حسابك والموافقة عليه بنجاح. يمكنك الآن تسجيل الدخول والاستفادة ",
        .lit "من جميع الميزات."]
      html := wrapHtml (.lines 9
        [[.lit "<h2>تم تفعيل الحساب</h2>"],
          greeting .ar recipientName,
          [.lit "<p>يسعدنا إبلاغك بأنه تمت الموافقة على حسابك بنجاح. يمكنك الآن تسجيل الدخول ",
            .lit "إلى منصة إينوفنت.</p>"]]) .ar }
  | .en =>
    { subject := [.lit "Welcome to INOVENT! Your Account Has Been Approved"]
      text := [.lit "Hello ", .val recipientName,
        .lit ",\n\nYour INOVENT account has been approved by our team. You can now log in ",
        .lit "and access all platform features."]
      html := wrapHtml (.lines 7
        [[.lit "<h2>Account Approved</h2>"],
          greeting .en recipientName,
          [.lit "<p>We are delighted to inform you that your INOVENT account has been ",
            .lit "reviewed and approved. You can now log in and access full platform ",
            .lit "capabilities.</p>"]]) .en }

def renderAccountRejected (ctx : EmailTemplateContext) (lang : Language)
    (recipientName : JsValue) : Email :=
  match lang with
  | .ar =>
    { subject := [.lit "إشعار بخصوص طلب الانضمام إلى إينوفنت"]
      text := [.lit "مرحباً ", .val recipientName,
        .lit "، نأسف لإبلاغك بأنه لم تتم الموافقة على حسابك للأسباب التالية: ",
        .val ((orUndefined ctx.body).or (.str "عدم استيفاء الشروط")), .lit "."]
      html := wrapHtml (.lines 9
        [[.lit "<h2>إشعار مراجعة الحساب</h2>"],
          greeting .ar recipientName,
          [.lit "<p>نأسف لإبلاغك بأنه لم يتم قبول طلبك في الوقت الحالي. التفاصيل: ",
            .val ((orUndefined ctx.body).or (.str "عدم استيفاء الشروط المطلوبة")),
            .lit ".</p>"]]) .ar }
  | .en =>
    { subject := [.lit "INOVENT Account Application Status"]
      text := [.lit "Hello ", .val recipientName,
        .lit ",\n\nWe regret to inform you that your application could not be approved at ",
        .lit "this time. Details: ", .val ((orUndefined ctx.body).or (.str "Requirements not met")),
        .lit "."]
      html := wrapHtml (.lines 7
        [[.lit "<h2>Account Review Update</h2>"],
          greeting .en recipientName,
          [.lit "<p>We regret to inform you that your application was not approved at this ",
            .lit "time. Details: ",
            .val ((orUndefined ctx.body).or (.str "Requirements not met")), .lit ".</p>"]]) .en }

def renderAccountSuspended (_ctx : EmailTemplateContext) (lang : Language)
    (recipientName : JsValue) : Email :=
  match lang with
  | .ar =>
    { subject := [.lit "تنبيه أمني: تم إيقاف حسابك في إينوفنت"]
      text := [.lit "مرحباً ", .val recipientName,
        .lit "، تم إيقاف حسابك مؤقتاً بسبب مخالفة سياسات الاستخدام.\n\nفريق إينوفنت"]
      html := wrapHtml (.lines 9
        [[.lit "<h2>إشعار إيقاف الحساب</h2>"],
          greeting .ar recipientName,
          [.lit "<p>تم إيقاف حسابك في منصة إينوفنت لمخالفة سياسات الاستخدام أو متطلبات ",
            .lit "الأمان.</p>"]]) .ar }
  | .en =>
    { subject := [.lit "Security Notice: Your INOVENT Account Has Been Suspended"]
      text := [.lit "Hello ", .val recipientName,
        .lit ",\n\nYour INOVENT account has been suspended due to security or policy ",
        .lit "compliance reasons."]
      html := wrapHtml (.lines 7
        [[.lit "<h2>Account Suspension Notice</h2>"],
          greeting .en recipientName,
          [.lit "<p>Your INOVENT account has been suspended due to security or platform ",
            .lit "policy violations.</p>"]]) .en }

def renderOrganizerInvitation (ctx : EmailTemplateContext) (lang : Language)
    (recipientName : JsValue) : Email :=
  let eventName := ((ctx.data.get "eventName").or (orUndefined ctx.title)).or (.str "INOVENT Event")
  let inviterName := (ctx.data.get "inviterName").or (.str "Event Owner")
  let invitationLink := (ctx.data.get "invitationLink").or (.str "#")
  let expiresAt := (ctx.data.get "expiresAt").or (.str "")
  match lang with
  | .ar =>
    { subject := [.lit "دعوة للانضمام كمنظم للفعالية — ", .val eventName]
      text := [.lit "مرحباً ", .val recipientName, .lit "،\n\nتمت دعوتك من قِبل ", .val inviterName,
        .lit " للانضمام كمنظم للفعالية \"", .val eventName, .lit "\".\n\nرابط قبول الدعوة: ",
        .val invitationLink, .lit "\nتنتهي صلاحية هذه الدعوة في: ", .val expiresAt,
        .lit "\n\nفريق إينوفنت"]
      html := wrapHtml (.lines 9
        [[.lit "<h2>دعوة لتنظيم الفعالية</h2>"],
          greeting .ar recipientName,
          [.lit "<p>يسرنا إبلاغك بأن <strong>", .val inviterName,
            .lit "</strong> قد دعاك للانضمام إلى فريق تنظيم الفعالية <strong>\"", .val eventName,
            .lit "\"</strong>.</p>"],
          [.lit "<p><strong>تاريخ انتهاء الدعوة:</strong> ", .val expiresAt, .lit "</p>"],
          [.lit "<p><a href=\"", .val invitationLink,
            .lit "\" style=\"display:inline-block;padding:10px 20px;background:#0052cc;",
            .lit "color:#ffffff;text-decoration:none;border-radius:4px;\">قبول الدعوة</a></p>"],
          [.lit "<p style=\"font-size:12px;color:#6b778c;\">إذا لم تكن تتوقع هذه الدعوة، يمكنك ",
            .lit "تجاهل هذا البريد بأمان.</p>"]]) .ar }
  | .en =>
    { subject := [.lit "Invitation to organize event: ", .val eventName]
      text := [.lit "Hello ", .val recipientName, .lit ",\n\nYou have been invited by ",
        .val inviterName, .lit " to join the organizing team for \"", .val eventName,
        .lit "\".\n\nAccept invitation: ", .val invitationLink,
        .lit "\nThis invitation expires at: ", .val expiresAt,
        .lit "\n\nBest regards,\nThe INOVENT Team"]
      html := wrapHtml (.lines 7
        [[.lit "<h2>Event Organizer Invitation</h2>"],
          greeting .en recipientName,
          [.lit "<p>You have been invited by <strong>", .val inviterName,
            .lit "</strong> to join the organizing team for <strong>\"", .val eventName,
            .lit "\"</strong>.</p>"],
          [.lit "<p><strong>Expires:</strong> ", .val expiresAt, .lit "</p>"],
          [.lit "<p><a href=\"", .val invitationLink,
            .lit "\" style=\"display:inline-block;padding:10px 20px;background:#0052cc;",
            .lit "color:#ffffff;text-decoration:none;border-radius:4px;\">Accept ",
            .lit "Invitation</a></p>"],
          [.lit "<p style=\"font-size:12px;color:#6b778c;\">If you were not expecting this ",
            .lit "invitation, you can safely ignore this email.</p>"]]) .en }

def renderOrganizerInvitationAccepted (ctx : EmailTemplateContext) (lang : Language)
    (recipientName : JsValue) : Email :=
  let eventName := ((ctx.data.get "eventName").or (orUndefined ctx.title)).or (.str "INOVENT Event")
  let organizerEmail := (ctx.data.get "organizerEmail").or (.str "")
  match lang with
  | .ar =>
    { subject := [.lit "تم قبول دعوة التنظيم للفعالية — ", .val eventName]
      text := [.lit "مرحباً ", .val recipientName, .lit "،\n\nقام ", .val organizerEmail,
        .lit " بقبول دعوتك للانضمام كمنظم للفعالية \"", .val eventName, .lit "\"."]
      html := wrapHtml (.lines 9
        [[.lit "<h2>تم قبول دعوة التنظيم</h2>"],
          greeting .ar recipientName,
          [.lit "<p>قام <strong>", .val organizerEmail,
            .lit "</strong> بقبول دعوتك للانضمام إلى فريق تنظيم الفعالية <strong>\"",
            .val eventName, .lit "\"</strong> بنجاح.</p>"]]) .ar }
  | .en =>
    { subject := [.lit "Organizer invitation accepted for ", .val eventName]
      text := [.lit "Hello ", .val recipientName, .lit ",\n\n", .val organizerEmail,
        .lit " has accepted your invitation to join the organizing team for \"", .val eventName,
        .lit "\"."]
      html := wrapHtml (.lines 7
        [[.lit "<h2>Organizer Invitation Accepted</h2>"],
          greeting .en recipientName,
          [.lit "<p><strong>", .val organizerEmail,
            .lit "</strong> has accepted your invitation to join the organizing team for ",
            .lit "<strong>\"", .val eventName, .lit "\"</strong>.</p>"]]) .en }

def renderDefaultNotification (ctx : EmailTemplateContext) (lang : Language)
    (recipientName : JsValue) : Email :=
  let title :=
    (orUndefined ctx.title).or (.str (if lang = .ar then "إشعار جديد" else "New Notification"))
  let body := (orUndefined ctx.body).or (.str "")
  match lang with
  | .ar =>
    { subject := [.lit "إينوفنت — ", .val title]
      text := [.lit "مرحباً ", .val recipientName, .lit "،\n\n", .val body, .lit "\n\nفريق إينوفنت"]
      html := wrapHtml (.lines 11
        [[.lit "<h2>", .val title, .lit "</h2>"],
          greeting .ar recipientName,
          [.lit "<p>", .val body, .lit "</p>"]]) .ar }
  | .en =>
    { subject := [.lit "INOVENT — ", .val title]
      text := [.lit "Hello ", .val recipientName, .lit ",\n\n", .val body,
        .lit "\n\nBest regards,\nThe INOVENT Team"]
      html := wrapHtml (.lines 9
        [[.lit "<h2>", .val title, .lit "</h2>"],
          greeting .en recipientName,
          [.lit "<p>", .val body, .lit "</p>"]]) .en }

def renderRfqSent (ctx : EmailTemplateContext) (lang : Language)
    (recipientName : JsValue) : Email :=
  let title := ((ctx.data.get "title").or (orUndefined ctx.title)).or (.str "Service Request")
  let expiresAt := (ctx.data.get "expiresAt").or (.str "")
  match lang with
  | .ar =>
    { subject := [.lit "طلب عرض أسعار جديد: ", .val title]
      text := [.lit "مرحباً ", .val recipientName,
        .lit "،\n\nلقد استلمت طلب عرض أسعار جديد (RFQ) بعنوان \"", .val title,
        .lit "\".\nتاريخ انتهاء الصلاحية: ", .val expiresAt,
        .lit "\n\nيرجى مراجعة تفاصيل الطلب وتقديم عرض الأسعار عبر البوابة.\n\nفريق إينوفنت"]
      html := wrapHtml (.lines 9
        [[.lit "<h2>طلب عرض أسعار جديد (RFQ)</h2>"],
          greeting .ar recipientName,
          [.lit "<p>لقد استلم حسابك التجاري طلب عرض أسعار جديد للمشروع <strong>\"", .val title,
            .lit "\"</strong>.</p>"],
          [.lit "<p><strong>تاريخ انتهاء الطلب:</strong> ", .val expiresAt, .lit "</p>"],
          [.lit "<p>يرجى تسجيل الدخول إلى منصة إينوفنت للاطلاع على بنود الطلب وتقديم عرض ",
            .lit "الأسعار المناسب.</p>"]]) .ar }
  | .en =>
    { subject := [.lit "New Request for Quotation: ", .val title]
      text := [.lit "Hello ", .val recipientName,
        .lit ",\n\nYou have received a new Request for Quotation (RFQ) for \"", .val title,
        .lit "\".\nExpires at: ", .val expiresAt,
        .lit "\n\nPlease review the line items and submit your quote through the ",
        .lit "portal.\n\nBest regards,\nThe INOVENT Team"]
      html := wrapHtml (.lines 7
        [[.lit "<h2>New Request for Quotation (RFQ)</h2>"],
          greeting .en recipientName,
          [.lit "<p>Your business has received a new Request for Quotation for <strong>\"",
            .val title, .lit "\"</strong>.</p>"],
          [.lit "<p><strong>Expiration Date:</strong> ", .val expiresAt, .lit "</p>"],
          [.lit "<p>Please log in to INOVENT B2B portal to review specifications and submit ",
            .lit "your formal quotation.</p>"]]) .en }

def renderRfqClarification (ctx : EmailTemplateContext) (lang : Language)
    (recipientName : JsValue) : Email :=
  let message := ((ctx.data.get "message").or (orUndefined ctx.body)).or (.str "")
  match lang with
  | .ar =>
    { subject := [.lit "استفسار توضيحي جديد حول طلب عرض الأسعار"]
      text := [.lit "مرحباً ", .val recipientName, .lit "،\n\nتم إرسال استفسار توضيحي جديد:\n\"",
        .val message, .lit "\"\n\nيرجى مراجعة البوابة والرد.\n\nفريق إينوفنت"]
      html := wrapHtml (.lines 9
        [[.lit "<h2>استفسار توضيحي جديد (RFQ Clarification)</h2>"],
          greeting .ar recipientName,
          [.lit "<p>تم إرسال رسالة توضيحية بخصوص طلب عرض الأسعار:</p>"],
          [.lit "<blockquote>\"", .val message, .lit "\"</blockquote>"],
          [.lit "<p>يرجى تسجيل الدخول للرد على هذا الاستفسار.</p>"]]) .ar }
  | .en =>
    { subject := [.lit "New Clarification Message on RFQ"]
      text := [.lit "Hello ", .val recipientName,
        .lit ",\n\nA clarification inquiry was posted regarding your RFQ:\n\"", .val message,
        .lit "\"\n\nPlease log in to review and respond.\n\nBest regards,\n",
        .lit "The INOVENT Team"]
      html := wrapHtml (.lines 7
        [[.lit "<h2>New RFQ Clarification Message</h2>"],
          greeting .en recipientName,
          [.lit "<p>A new clarification message was posted:</p>"],
          [.lit "<blockquote>\"", .val message, .lit "\"</blockquote>"],
          [.lit "<p>Please log in to the portal to reply and keep communications aligned.",
            .lit "</p>"]]) .en }

def renderRfqQuoted (ctx : EmailTemplateContext) (lang : Language)
    (recipientName : JsValue) : Email :=
  let version := (ctx.data.get "version").or (.num 1)
  let total := (ctx.data.get "total").or (.num 0)
  let currency := (ctx.data.get "currency").or (.str "SAR")
  let validUntil := (ctx.data.get "validUntil").or (.str "")
  match lang with
  | .ar =>
    { subject := [.lit "تم استلام عرض أسعار جديد (الإصدار ", .val version, .lit ")"]
      text := [.lit "مرحباً ", .val recipientName,
        .lit "،\n\nقام المورّد بتقديم عرض أسعار جديد بقيمة ", .val total, .lit " ", .val currency,
        .lit ".\nصلاحية العرض حتى: ", .val validUntil, .lit "\n\nفريق إينوفنت"]
      html := wrapHtml (.lines 9
        [[.lit "<h2>عرض أسعار جديد (إصدار ", .val version, .lit ")</h2>"],
          greeting .ar recipientName,
          [.lit "<p>تم استلام عرض أسعار جديد لطلبك بقيمة إجمالية <strong>", .val total, .lit " ",
            .val currency, .lit "</strong>.</p>"],
          [.lit "<p><strong>صالح حتى:</strong> ", .val validUntil, .lit "</p>"],
          [.lit "<p>يمكنك الآن قبول أو رفض أو طلب توضيحات إضافية عبر المنصة.</p>"]]) .ar }
  | .en =>
    { subject := [.lit "New Quotation Received (Version ", .val version, .lit ")"]
      text := [.lit "Hello ", .val recipientName,
        .lit ",\n\nA quotation has been submitted for your RFQ with a total of ", .val total,
        .lit " ", .val currency, .lit ".\nValid until: ", .val validUntil,
        .lit "\n\nBest regards,\nThe INOVENT Team"]
      html := wrapHtml (.lines 7
        [[.lit "<h2>New Quotation Received (v", .val version, .lit ")</h2>"],
          greeting .en recipientName,
          [.lit "<p>A formal quotation has been submitted for your project with a total of ",
            .lit "<strong>", .val total, .lit " ", .val currency, .lit "</strong>.</p>"],
          [.lit "<p><strong>Valid Until:</strong> ", .val validUntil, .lit "</p>"],
          [.lit "<p>Log in to review line item pricing, accept, or decline.</p>"]]) .en }

def renderRfqAccepted (ctx : EmailTemplateContext) (lang : Language)
    (recipientName : JsValue) : Email :=
  let total := (ctx.data.get "total").or (.num 0)
  let currency := (ctx.data.get "currency").or (.str "SAR")
  match lang with
  | .ar =>
    { subject := [.lit "تهانينا! تم قبول عرض الأسعار الخاص بك"]
      text := [.lit "مرحباً ", .val recipientName,
        .lit "،\n\nيسرنا إبلاغك بأن الراعي قد وافق رسمياً على عرض الأسعار بقيمة ", .val total,
        .lit " ", .val currency, .lit ".\n\nفريق إينوفنت"]
      html := wrapHtml (.lines 9
        [[.lit "<h2>تهانينا! تم قبول عرض الأسعار</h2>"],
          greeting .ar recipientName,
          [.lit "<p>يسعدنا إعلامك بأن عرض الأسعار الخاص بك بقيمة <strong>", .val total, .lit " ",
            .val currency, .lit "</strong> قد تم قبوله رسمياً.</p>"],
          [.lit "<p>يرجى التنسيق مع العميل لبدء مرحلة التنفيذ والخدمات.</p>"]]) .ar }
  | .en =>
    { subject := [.lit "Congratulations! Your Quotation Has Been Accepted"]
      text := [.lit "Hello ", .val recipientName, .lit ",\n\nYour quotation for ", .val total,
        .lit " ", .val currency,
        .lit " has been accepted by the sponsor.\n\nBest regards,\nThe INOVENT Team"]
      html := wrapHtml (.lines 7
        [[.lit "<h2>Quotation Accepted!</h2>"],
          greeting .en recipientName,
          [.lit "<p>Great news! Your quotation of <strong>", .val total, .lit " ", .val currency,
            .lit "</strong> has been accepted by the client.</p>"],
          [.lit "<p>Please access your dashboard to review delivery schedules and fulfill ",
            .lit "the project requirements.</p>"]]) .en }

def renderRfqRejected (ctx : EmailTemplateContext) (lang : Language)
    (recipientName : JsValue) : Email :=
  let reason := (ctx.data.get "reason").or (.str "No specific reason provided")
  match lang with
  | .ar =>
    { subject := [.lit "إشعار بشأن عرض الأسعار أو طلب عرض الأسعار"]
      text := [.lit "مرحباً ", .val recipientName,
        .lit "،\n\nتم رفض عرض الأسعار أو طلب عرض الأسعار.\nالسبب: ", .val reason,
        .lit "\n\nفريق إينوفنت"]
      html := wrapHtml (.lines 9
        [[.lit "<h2>إشعار عدم القبول</h2>"],
          greeting .ar recipientName,
          [.lit "<p>نود إبلاغك بأنه لم يتم قبول عرض الأسعار أو طلب عرض الأسعار.</p>"],
          [.lit "<p><strong>السبب المذكور:</strong> ", .val reason, .lit "</p>"]]) .ar }
  | .en =>
    { subject := [.lit "Update on Quotation / RFQ"]
      text := [.lit "Hello ", .val recipientName,
        .lit ",\n\nThe quotation or RFQ has been rejected.\nReason: ", .val reason,
        .lit "\n\nBest regards,\nThe INOVENT Team"]
      html := wrapHtml (.lines 7
        [[.lit "<h2>Status Update: Declined</h2>"],
          greeting .en recipientName,
          [.lit "<p>We are writing to inform you that the quotation or RFQ was declined.</p>"],
          [.lit "<p><strong>Reason provided:</strong> ", .val reason, .lit "</p>"]]) .en }

def renderRfqCancelled (ctx : EmailTemplateContext) (lang : Language)
    (recipientName : JsValue) : Email :=
  let reason := (ctx.data.get "reason").or (.str "Cancelled by sponsor")
  match lang with
  | .ar =>
    { subject := [.lit "تم إلغاء طلب عرض الأسعار (RFQ)"]
      text := [.lit "مرحباً ", .val recipientName,
        .lit "،\n\nتم إلغاء طلب عرض الأسعار من قبل الراعي.\nالسبب: ", .val reason,
        .lit "\n\nفريق إينوفنت"]
      html := wrapHtml (.lines 9
        [[.lit "<h2>تم إلغاء طلب عرض الأسعار</h2>"],
          greeting .ar recipientName,
          [.lit "<p>نود إحاطتك بأنه قد تم إلغاء طلب عرض الأسعار رسمياً.</p>"],
          [.lit "<p><strong>السبب:</strong> ", .val reason, .lit "</p>"]]) .ar }
  | .en =>
    { subject := [.lit "RFQ Cancelled by Sponsor"]
      text := [.lit "Hello ", .val recipientName,
        .lit ",\n\nThe RFQ was cancelled by the sponsor.\nReason: ", .val reason,
        .lit "\n\nBest regards,\nThe INOVENT Team"]
      html := wrapHtml (.lines 7
        [[.lit "<h2>RFQ Cancelled</h2>"],
          greeting .en recipientName,
          [.lit "<p>The sponsor has cancelled the request for quotation.</p>"],
          [.lit "<p><strong>Reason:</strong> ", .val reason, .lit "</p>"]]) .en }

def renderRfqExpired (ctx : EmailTemplateContext) (lang : Language)
    (recipientName : JsValue) : Email :=
  let title := ((ctx.data.get "title").or (orUndefined ctx.title)).or (.str "")
  let titleSnippet : Template JsValue := if title.truthy then [.lit " — ", .val title] else []
  match lang with
  | .ar =>
    { subject := [.lit "انتهت صلاحية طلب عرض الأسعار"] ++ titleSnippet
      text := [.lit "مرحباً ", .val recipientName,
        .lit "،\n\nنود إعلامك بأن صلاحية طلب عرض الأسعار ", .val title,
        .lit " قد انتهت.\n\nفريق إينوفنت"]
      html := wrapHtml (.lines 9
        [[.lit "<h2>انتهاء صلاحية طلب عرض الأسعار</h2>"],
          greeting .ar recipientName,
          [.lit "<p>نحيطكم علماً بأن طلب عرض الأسعار <strong>\"",
            .val (title.or (.str "RFQ")),
            .lit "\"</strong> قد تجاوز التاريخ المحدد وانتهت صلاحيته.</p>"]]) .ar }
  | .en =>
    { subject := [.lit "RFQ Has Expired"] ++ titleSnippet
      text := [.lit "Hello ", .val recipientName, .lit ",\n\nThe validity period for RFQ \"",
        .val title, .lit "\" has ended and it is now expired.\n\nBest regards,\nThe INOVENT Team"]
      html := wrapHtml (.lines 7
        [[.lit "<h2>RFQ Expired</h2>"],
          greeting .en recipientName,
          [.lit "<p>The deadline for request for quotation <strong>\"",
            .val (title.or (.str "RFQ")),
            .lit "\"</strong> has passed and it is now expired.</p>"]]) .en }

def renderC2bBookingRequested (ctx : EmailTemplateContext) (lang : Language)
    (recipientName : JsValue) : Email :=
  let serviceName :=
    ((ctx.data.get "serviceName").or (orUndefined ctx.title)).or (.str "C2B Service")
  let attendeeName := (ctx.data.get "attendeeName").or (.str "An attendee")
  match lang with
  | .ar =>
    { subject := [.lit "طلب حجز جديد: ", .val serviceName]
      text := [.lit "مرحباً ", .val recipientName, .lit "،\n\nتلقيت طلب حجز جديد من ",
        .val attendeeName, .lit " لخدمتك: \"", .val serviceName,
        .lit "\".\n\nيرجى مراجعة الطلب في لوحة التحكم.\n\nفريق إينوفنت"]
      html := wrapHtml (.lines 9
        [[.lit "<h2>طلب حجز جديد</h2>"],
          greeting .ar recipientName,
          [.lit "<p>تلقيت طلب حجز جديد لخدمتك <strong>\"", .val serviceName,
            .lit "\"</strong> من قبل <strong>", .val attendeeName, .lit "</strong>.</p>"],
          [.lit "<p>يرجى التوجه إلى بوابة الخدمات لمراجعة التفاصيل والرد على العميل.</p>"]]) .ar }
  | .en =>
    { subject := [.lit "New Booking Request: ", .val serviceName]
      text := [.lit "Hello ", .val recipientName,
        .lit ",\n\nYou have received a new booking request from ", .val attendeeName,
        .lit " for \"", .val serviceName,
        .lit "\".\n\nPlease review it in your provider portal.\n\nBest regards,\n",
        .lit "The INOVENT Team"]
      html := wrapHtml (.lines 7
        [[.lit "<h2>New Booking Request</h2>"],
          greeting .en recipientName,
          [.lit "<p>You have received a new booking request for your service <strong>\"",
            .val serviceName, .lit "\"</strong> from <strong>", .val attendeeName,
            .lit "</strong>.</p>"],
          [.lit "<p>Please log in to your provider dashboard to view details and respond.",
            .lit "</p>"]]) .en }

def renderC2bBookingStatusChanged (ctx : EmailTemplateContext) (lang : Language)
    (recipientName : JsValue) : Email :=
  let serviceName := (ctx.data.get "serviceName").or (.str "Service")
  let status := (ctx.data.get "status").or (.str "UPDATED")
  match lang with
  | .ar =>
    { subject := [.lit "تحديث حالة طلب الحجز: ", .val serviceName]
      text := [.lit "مرحباً ", .val recipientName, .lit "،\n\nتم تحديث حالة طلبك لخدمة \"",
        .val serviceName, .lit "\" إلى: ", .val status, .lit ".\n\nفريق إينوفنت"]
      html := wrapHtml (.lines 9
        [[.lit "<h2>تحديث حالة طلب الحجز</h2>"],
          greeting .ar recipientName,
          [.lit "<p>تم تحديث حالة طلبك لخدمة <strong>\"", .val serviceName,
            .lit "\"</strong> إلى: <strong>", .val status, .lit "</strong>.</p>"]]) .ar }
  | .en =>
    { subject := [.lit "Booking Request Update: ", .val serviceName]
      text := [.lit "Hello ", .val recipientName, .lit ",\n\nYour booking request for \"",
        .val serviceName, .lit "\" has been updated to: ", .val status,
        .lit ".\n\nBest regards,\nThe INOVENT Team"]
      html := wrapHtml (.lines 7
        [[.lit "<h2>Booking Status Update</h2>"],
          greeting .en recipientName,
          [.lit "<p>Your booking request for <strong>\"", .val serviceName,
            .lit "\"</strong> has been updated to: <strong>", .val status,
            .lit "</strong>.</p>"]]) .en }

def renderSponsorAdSubmitted (ctx : EmailTemplateContext) (lang : Language)
    (recipientName : JsValue) : Email :=
  let title := ((ctx.data.get "title").or (orUndefined ctx.title)).or (.str "Sponsor Ad")
  match lang with
  | .ar =>
    { subject := [.lit "تم استلام إعلان راعٍ للمراجعة: ", .val title]
      text := [.lit "مرحباً ", .val recipientName, .lit "،\n\nتم تقديم إعلان جديد بعنوان \"",
        .val title, .lit "\" للمراجعة والاعتماد.\n\nفريق إينوفنت"]
      html := wrapHtml (.lines 9
        [[.lit "<h2>إعلان راعٍ قيد المراجعة</h2>"],
          greeting .ar recipientName,
          [.lit "<p>تم تقديم إعلان جديد بعنوان <strong>\"", .val title,
            .lit "\"</strong> للمراجعة والاعتماد.</p>"]]) .ar }
  | .en =>
    { subject := [.lit "New Sponsor Ad Submitted for Review: ", .val title]
      text := [.lit "Hello ", .val recipientName, .lit ",\n\nA new sponsor ad \"", .val title,
        .lit "\" has been submitted for moderation review.\n\nBest regards,\n",
        .lit "The INOVENT Team"]
      html := wrapHtml (.lines 7
        [[.lit "<h2>Sponsor Ad Submitted for Review</h2>"],
          greeting .en recipientName,
          [.lit "<p>A new sponsor ad <strong>\"", .val title,
            .lit "\"</strong> has been submitted and is pending administrator review.</p>"]]) .en }

def renderSponsorAdApproved (ctx : EmailTemplateContext) (lang : Language)
    (recipientName : JsValue) : Email :=
  let title := ((ctx.data.get "title").or (orUndefined ctx.title)).or (.str "Sponsor Ad")
  match lang with
  | .ar =>
    { subject := [.lit "تمت الموافقة على إعلانك: ", .val title]
      text := [.lit "مرحباً ", .val recipientName,
        .lit "،\n\nيسرنا إبلاغك بأنه تمت الموافقة على إعلانك \"", .val title,
        .lit "\".\n\nفريق إينوفنت"]
      html := wrapHtml (.lines 9
        [[.lit "<h2>تمت الموافقة على الإعلان</h2>"],
          greeting .ar recipientName,
          [.lit "<p>يسعدنا إبلاغك بأنه تمت الموافقة على إعلانك <strong>\"", .val title,
            .lit "\"</strong> وأصبح مؤهلاً للنشر.</p>"]]) .ar }
  | .en =>
    { subject := [.lit "Sponsor Ad Approved: ", .val title]
      text := [.lit "Hello ", .val recipientName, .lit ",\n\nGreat news! Your ad \"", .val title,
        .lit "\" has been approved.\n\nBest regards,\nThe INOVENT Team"]
      html := wrapHtml (.lines 7
        [[.lit "<h2>Sponsor Ad Approved</h2>"],
          greeting .en recipientName,
          [.lit "<p>Great news! Your ad <strong>\"", .val title,
            .lit "\"</strong> has been approved by our review team.</p>"]]) .en }

def renderSponsorAdRejected (ctx : EmailTemplateContext) (lang : Language)
    (recipientName : JsValue) : Email :=
  let title := ((ctx.data.get "title").or (orUndefined ctx.title)).or (.str "Sponsor Ad")
  let reason := (ctx.data.get "reason").or (.str "Does not meet platform guidelines")
  match lang with
  | .ar =>
    { subject := [.lit "تحديث بشأن إعلانك: ", .val title]
      text := [.lit "مرحباً ", .val recipientName, .lit "،\n\nللأسف، لم تتم الموافقة على إعلانك \"",
        .val title, .lit "\".\nالسبب: ", .val reason, .lit "\n\nفريق إينوفنت"]
      html := wrapHtml (.lines 9
        [[.lit "<h2>تحديث بشأن إعلان الراعي</h2>"],
          greeting .ar recipientName,
          [.lit "<p>للأسف، لم تتم الموافقة على إعلانك <strong>\"", .val title,
            .lit "\"</strong>.</p>"],
          [.lit "<blockquote>", .val reason, .lit "</blockquote>"],
          [.lit "<p>يرجى تعديل الإعلان وإعادة تقديمه.</p>"]]) .ar }
  | .en =>
    { subject := [.lit "Sponsor Ad Update: Action Required on ", .val title]
      text := [.lit "Hello ", .val recipientName, .lit ",\n\nYour ad \"", .val title,
        .lit "\" was not approved.\nReason: ", .val reason,
        .lit "\n\nBest regards,\nThe INOVENT Team"]
      html := wrapHtml (.lines 7
        [[.lit "<h2>Sponsor Ad Not Approved</h2>"],
          greeting .en recipientName,
          [.lit "<p>Your ad <strong>\"", .val title,
            .lit "\"</strong> was reviewed and not approved for the following reason:</p>"],
          [.lit "<blockquote>", .val reason, .lit "</blockquote>"],
          [.lit "<p>Please update the content and re-submit for review.</p>"]]) .en }

def renderCouponRedeemed (ctx : EmailTemplateContext) (lang : Language)
    (recipientName : JsValue) : Email :=
  let code := ((ctx.data.get "code").or (orUndefined ctx.title)).or (.str "Coupon")
  let attendeeName := (ctx.data.get "attendeeName").or (.str "An attendee")
  match lang with
  | .ar =>
    { subject := [.lit "تم استخدام كوبون: ", .val code]
      text := [.lit "مرحباً ", .val recipientName, .lit "،\n\nتم استخدام الكوبون \"", .val code,
        .lit "\" بواسطة ", .val attendeeName, .lit ".\n\nفريق إينوفنت"]
      html := wrapHtml (.lines 9
        [[.lit "<h2>استخدام كوبون خصم</h2>"],
          greeting .ar recipientName,
          [.lit "<p>تم استخدام كوبون الخصم <strong>\"", .val code,
            .lit "\"</strong> بنجاح بواسطة <strong>", .val attendeeName,
            .lit "</strong>.</p>"]]) .ar }
  | .en =>
    { subject := [.lit "Coupon Redeemed: ", .val code]
      text := [.lit "Hello ", .val recipientName, .lit ",\n\nYour coupon \"", .val code,
        .lit "\" was redeemed by ", .val attendeeName, .lit ".\n\nBest regards,\nThe INOVENT Team"]
      html := wrapHtml (.lines 7
        [[.lit "<h2>Coupon Redeemed</h2>"],
          greeting .en recipientName,
          [.lit "<p>Your promotional coupon <strong>\"", .val code,
            .lit "\"</strong> has been redeemed by <strong>", .val attendeeName,
            .lit "</strong>.</p>"]]) .en }

def renderCommunitySponsorshipPaid (ctx : EmailTemplateContext) (lang : Language)
    (recipientName : JsValue) : Email :=
  let communityName := (ctx.data.get "communityName").or (.str "Community")
  let amount := (ctx.data.get "amount").or (.str "500")
  let currency := (ctx.data.get "currency").or (.str "SAR")
  match lang with
  | .ar =>
    { subject := [.lit "تم استلام دفعة رعاية المجتمع: ", .val communityName]
      text := [.lit "مرحباً ", .val recipientName, .lit "،\n\nتم استلام دفعتك بمبلغ ", .val amount,
        .lit " ", .val currency, .lit " لرعاية مجتمع \"", .val communityName,
        .lit "\".\n\nفريق إينوفنت"]
      html := wrapHtml (.lines 9
        [[.lit "<h2>تأكيد دفع الرعاية</h2>"],
          greeting .ar recipientName,
          [.lit "<p>تم استلام دفعتك بنجاح بمبلغ <strong>", .val amount, .lit " ", .val currency,
            .lit "</strong> لرعاية مجتمع <strong>\"", .val communityName, .lit "\"</strong>.</p>"],
          [.lit "<p>سيتم تفعيل مميزات الرعاية فوراً.</p>"]]) .ar }
  | .en =>
    { subject := [.lit "Payment Received for Community Sponsorship: ", .val communityName]
      text := [.lit "Hello ", .val recipientName, .lit ",\n\nYour payment of ", .val amount,
        .lit " ", .val currency, .lit " for sponsoring \"", .val communityName,
        .lit "\" has been received.\n\nBest regards,\nThe INOVENT Team"]
      html := wrapHtml (.lines 7
        [[.lit "<h2>Sponsorship Payment Confirmed</h2>"],
          greeting .en recipientName,
          [.lit "<p>We have successfully received your payment of <strong>", .val amount, .lit " ",
            .val currency, .lit "</strong> for sponsoring the community <strong>\"",
            .val communityName, .lit "\"</strong>.</p>"],
          [.lit "<p>Your sponsorship benefits are now active.</p>"]]) .en }

def renderCommunitySponsorshipActivated (ctx : EmailTemplateContext) (lang : Language)
    (recipientName : JsValue) : Email :=
  let communityName := (ctx.data.get "communityName").or (.str "Community")
  let capacity := (ctx.data.get "memberCapacity").or (.str "500")
  match lang with
  | .ar =>
    { subject := [.lit "تم تفعيل رعاية المجتمع: ", .val communityName]
      text := [.lit "مرحباً ", .val recipientName, .lit "،\n\nأصبح مجتمع \"", .val communityName,
        .lit "\" ممولاً رسمياً مع زيادة السعة إلى ", .val capacity, .lit " عضواً.\n\nفريق إينوفنت"]
      html := wrapHtml (.lines 9
        [[.lit "<h2>تم تفعيل رعاية المجتمع</h2>"],
          greeting .ar recipientName,
          [.lit "<p>أصبح مجتمع <strong>\"", .val communityName,
            .lit "\"</strong> برعايتك الرسمية الآن.</p>"],
          [.lit "<p><strong>المزايا المفعلة:</strong> شارة الراعي، تثبيت المجتمع في الأعلى، ",
            .lit "وسعة تصل إلى ", .val capacity, .lit " عضواً.</p>"]]) .ar }
  | .en =>
    { subject := [.lit "Community Sponsorship Activated: ", .val communityName]
      text := [.lit "Hello ", .val recipientName, .lit ",\n\nCommunity \"", .val communityName,
        .lit "\" is now officially sponsored with expanded capacity to ", .val capacity,
        .lit " members.\n\nBest regards,\nThe INOVENT Team"]
      html := wrapHtml (.lines 7
        [[.lit "<h2>Community Sponsorship Active</h2>"],
          greeting .en recipientName,
          [.lit "<p>The community <strong>\"", .val communityName,
            .lit "\"</strong> is now actively sponsored.</p>"],
          [.lit "<p><strong>Active Benefits:</strong> Sponsored badge, top-pinned placement, ",
            .lit "and expanded capacity to ", .val capacity, .lit " members.</p>"]]) .en }

def renderCommunitySponsorshipExpired (ctx : EmailTemplateContext) (lang : Language)
    (recipientName : JsValue) : Email :=
  let communityName := (ctx.data.get "communityName").or (.str "Community")
  match lang with
  | .ar =>
    { subject := [.lit "انتهاء رعاية المجتمع: ", .val communityName]
      text := [.lit "مرحباً ", .val recipientName, .lit "،\n\nانتهت فترة رعاية مجتمع \"",
        .val communityName, .lit "\". تمت إعادة السعة إلى الحد القياسي (20 عضواً).\n\nفريق إينوفنت"]
      html := wrapHtml (.lines 9
        [[.lit "<h2>انتهاء فترة رعاية المجتمع</h2>"],
          greeting .ar recipientName,
          [.lit "<p>انتهت فترة رعاية مجتمع <strong>\"", .val communityName,
            .lit "\"</strong>.</p>"],
          [.lit "<p>تمت إعادة سعة الانضمام الجديدة إلى الوضع الافتراضي، مع الحفاظ الكامل على ",
            .lit "الأعضاء الحاليين.</p>"]]) .ar }
  | .en =>
    { subject := [.lit "Community Sponsorship Expired: ", .val communityName]
      text := [.lit "Hello ", .val recipientName, .lit ",\n\nThe sponsorship for \"",
        .val communityName,
        .lit "\" has expired. Member capacity reverted to default (20 members).\n\n",
        .lit "Best regards,\nThe INOVENT Team"]
      html := wrapHtml (.lines 7
        [[.lit "<h2>Community Sponsorship Expired</h2>"],
          greeting .en recipientName,
          [.lit "<p>The sponsorship duration for <strong>\"", .val communityName,
            .lit "\"</strong> has expired.</p>"],
          [.lit "<p>Member capacity for new joins has reverted to standard limit. Existing ",
            .lit "members remain unaffected.</p>"]]) .en }

def renderSubscriptionActivated (ctx : EmailTemplateContext) (lang : Language)
    (recipientName : JsValue) : Email :=
  let planName := (ctx.data.get "planName").or (.str "Subscription")
  match lang with
  | .ar =>
    { subject := [.lit "تم تفعيل اشتراكك: ", .val planName]
      text := [.lit "مرحباً ", .val recipientName, .lit "،\n\nتم تفعيل اشتراكك في باقة \"",
        .val planName, .lit "\" بنجاح.\n\nفريق إينوفنت"]
      html := wrapHtml (.lines 9
        [[.lit "<h2>تم تفعيل الاشتراك بنجاح</h2>"],
          greeting .ar recipientName,
          [.lit "<p>أصبح اشتراكك في باقة <strong>\"", .val planName,
            .lit "\"</strong> مفعلاً ومتاحاً للاستخدام الآن.</p>"]]) .ar }
  | .en =>
    { subject := [.lit "Subscription Activated: ", .val planName]
      text := [.lit "Hello ", .val recipientName, .lit ",\n\nYour subscription to \"",
        .val planName,
        .lit "\" has been successfully activated.\n\nBest regards,\nThe INOVENT Team"]
      html := wrapHtml (.lines 7
        [[.lit "<h2>Subscription Active</h2>"],
          greeting .en recipientName,
          [.lit "<p>Your subscription to <strong>\"", .val planName,
            .lit "\"</strong> is now active and ready to use.</p>"]]) .en }

def renderSubscriptionRenewed (ctx : EmailTemplateContext) (lang : Language)
    (recipientName : JsValue) : Email :=
  let planName := (ctx.data.get "planName").or (.str "Subscription")
  match lang with
  | .ar =>
    { subject := [.lit "تم تجديد اشتراكك بنجاح: ", .val planName]
      text := [.lit "مرحباً ", .val recipientName, .lit "،\n\nتم تجديد اشتراكك في باقة \"",
        .val planName, .lit "\" بنجاح.\n\nفريق إينوفنت"]
      html := wrapHtml (.lines 9
        [[.lit "<h2>تم تجديد الاشتراك</h2>"],
          greeting .ar recipientName,
          [.lit "<p>تم تجديد اشتراكك في باقة <strong>\"", .val planName,
            .lit "\"</strong> بنجاح للفترة القادمة.</p>"]]) .ar }
  | .en =>
    { subject := [.lit "Subscription Renewed: ", .val planName]
      text := [.lit "Hello ", .val recipientName, .lit ",\n\nYour subscription to \"",
        .val planName, .lit "\" has renewed successfully.\n\nBest regards,\nThe INOVENT Team"]
      html := wrapHtml (.lines 7
        [[.lit "<h2>Subscription Renewed</h2>"],
          greeting .en recipientName,
          [.lit "<p>Your subscription to <strong>\"", .val planName,
            .lit "\"</strong> has been successfully renewed.</p>"]]) .en }

def renderSubscriptionPaymentFailed (ctx : EmailTemplateContext) (lang : Language)
    (recipientName : JsValue) : Email :=
  let planName := (ctx.data.get "planName").or (.str "Subscription")
  match lang with
  | .ar =>
    { subject := [.lit "فشل دفع تجديد الاشتراك: ", .val planName]
      text := [.lit "مرحباً ", .val recipientName, .lit "،\n\nتعذر تجديد اشتراكك في باقة \"",
        .val planName, .lit "\". يرجى تحديث وسيلة الدفع لتجنب إيقاف الخدمة.\n\nفريق إينوفنت"]
      html := wrapHtml (.lines 9
        [[.lit "<h2>تعذر تجديد الاشتراك</h2>"],
          greeting .ar recipientName,
          [.lit "<p>تعذر خصم قيمة تجديد اشتراكك في باقة <strong>\"", .val planName,
            .lit "\"</strong>.</p>"],
          [.lit "<p>يرجى تحديث بيانات وسيلة الدفع الخاصة بك عبر لوحة التحكم لتجنب انقطاع ",
            .lit "المزايا.</p>"]]) .ar }
  | .en =>
    { subject := [.lit "Payment Failed: Subscription ", .val planName]
      text := [.lit "Hello ", .val recipientName,
        .lit ",\n\nWe could not process your renewal payment for \"", .val planName,
        .lit "\". Please update your payment method.\n\nBest regards,\nThe INOVENT Team"]
      html := wrapHtml (.lines 7
        [[.lit "<h2>Payment Failed for Subscription Renewal</h2>"],
          greeting .en recipientName,
          [.lit "<p>We were unable to process your renewal payment for <strong>\"", .val planName,
            .lit "\"</strong>.</p>"],
          [.lit "<p>Please update your billing information to keep your subscription ",
            .lit "active.</p>"]]) .en }

def renderSubscriptionCancelled (ctx : EmailTemplateContext) (lang : Language)
    (recipientName : JsValue) : Email :=
  let planName := (ctx.data.get "planName").or (.str "Subscription")
  match lang with
  | .ar =>
    { subject := [.lit "تم إلغاء الاشتراك: ", .val planName]
      text := [.lit "مرحباً ", .val recipientName, .lit "،\n\nتم إلغاء اشتراكك في باقة \"",
        .val planName, .lit "\". ستبقى المزايا مفعلة حتى نهاية الفترة الحالية.\n\nفريق إينوفنت"]
      html := wrapHtml (.lines 9
        [[.lit "<h2>تم إلغاء الاشتراك</h2>"],
          greeting .ar recipientName,
          [.lit "<p>تم استلام طلب إلغاء اشتراكك في باقة <strong>\"", .val planName,
            .lit "\"</strong>.</p>"],
          [.lit "<p>ستظل مزاياك الحالية متاحة حتى نهاية دورة الفوترة المدفوعة.</p>"]]) .ar }
  | .en =>
    { subject := [.lit "Subscription Cancelled: ", .val planName]
      text := [.lit "Hello ", .val recipientName, .lit ",\n\nYour subscription to \"",
        .val planName,
        .lit "\" has been cancelled. Active benefits will remain until the end of the ",
        .lit "billing period.\n\nBest regards,\nThe INOVENT Team"]
      html := wrapHtml (.lines 7
        [[.lit "<h2>Subscription Cancelled</h2>"],
          greeting .en recipientName,
          [.lit "<p>Your subscription to <strong>\"", .val planName,
            .lit "\"</strong> has been cancelled.</p>"],
          [.lit "<p>You will retain access to your plan features until the end of your ",
            .lit "current billing period.</p>"]]) .en }

def renderPaymentRefunded (ctx : EmailTemplateContext) (lang : Language)
    (recipientName : JsValue) : Email :=
  let amount := (ctx.data.get "amount").or (.str "0")
  let currency := (ctx.data.get "currency").or (.str "SAR")
  match lang with
  | .ar =>
    { subject := [.lit "تم استرداد مبلغ الدفع: ", .val amount, .lit " ", .val currency]
      text := [.lit "مرحباً ", .val recipientName, .lit "،\n\nتمت معالجة استرداد مبلغ ",
        .val amount, .lit " ", .val currency, .lit " بنجاح إلى حسابك.\n\nفريق إينوفنت"]
      html := wrapHtml (.lines 9
        [[.lit "<h2>تأكيد استرداد المبلغ</h2>"],
          greeting .ar recipientName,
          [.lit "<p>تم استرداد مبلغ <strong>", .val amount, .lit " ", .val currency,
            .lit "</strong> بنجاح إلى وسيلة الدفع الأصلية الخاصة بك.</p>"]]) .ar }
  | .en =>
    { subject := [.lit "Payment Refunded: ", .val amount, .lit " ", .val currency]
      text := [.lit "Hello ", .val recipientName, .lit ",\n\nA refund of ", .val amount, .lit " ",
        .val currency,
        .lit " has been processed back to your original payment method.\n\nBest regards,\n",
        .lit "The INOVENT Team"]
      html := wrapHtml (.lines 7
        [[.lit "<h2>Refund Processed</h2>"],
          greeting .en recipientName,
          [.lit "<p>A refund of <strong>", .val amount, .lit " ", .val currency,
            .lit "</strong> has been issued to your original payment method.</p>"]]) .en }

/-- The `switch` over the types of notifications. -/
def renders : NotificationType → EmailTemplateContext → Language → JsValue → Email
  | .sessionReminder => renderSessionReminder
  | .eventCancelled => renderEventCancelled
  | .communityPostMention => renderCommunityMention
  | .communityPostReply => renderCommunityReply
  | .communityMeetupCreated => renderMeetupCreated
  | .communityMeetupReminder => renderMeetupReminder
  | .communityModerationAction => renderModerationAction
  | .securityPasswordReset => renderSecurityPasswordReset
  | .accountApproved => renderAccountApproved
  | .accountRejected => renderAccountRejected
  | .accountSuspended => renderAccountSuspended
  | .organizerInvitationCreated => renderOrganizerInvitation
  | .organizerInvitationAccepted => renderOrganizerInvitationAccepted
  | .rfqSent => renderRfqSent
  | .rfqClarificationRequested => renderRfqClarification
  | .rfqQuoted => renderRfqQuoted
  | .rfqAccepted => renderRfqAccepted
  | .rfqRejected => renderRfqRejected
  | .rfqCancelled => renderRfqCancelled
  | .rfqExpired => renderRfqExpired
  | .c2bBookingRequested => renderC2bBookingRequested
  | .c2bBookingStatusChanged => renderC2bBookingStatusChanged
  | .sponsorAdSubmitted => renderSponsorAdSubmitted
  | .sponsorAdApproved => renderSponsorAdApproved
  | .sponsorAdRejected => renderSponsorAdRejected
  | .couponRedeemed => renderCouponRedeemed
  | .communitySponsorshipPaid => renderCommunitySponsorshipPaid
  | .communitySponsorshipActivated => renderCommunitySponsorshipActivated
  | .communitySponsorshipExpired => renderCommunitySponsorshipExpired
  | .subscriptionActivated => renderSubscriptionActivated
  | .subscriptionRenewed => renderSubscriptionRenewed
  | .subscriptionPaymentFailed => renderSubscriptionPaymentFailed
  | .subscriptionCancelled => renderSubscriptionCancelled
  | .paymentRefunded => renderPaymentRefunded
  | .eventPublished | .communityMemberAction | .chatMessage | .securityEmailVerification
  | .rfqViewed => renderDefaultNotification

def language (context : EmailTemplateContext) : Language :=
  if context.language = some "ar" then .ar else .en

def email (type : NotificationType) (context : EmailTemplateContext) : Email :=
  let lang := language context
  let recipientName := (orUndefined context.recipientName).or
    (.str (if lang = .ar then "عزيزي المستخدم" else "Valued User"))
  renders type context lang recipientName

def render (sp : Spelling) (type : NotificationType) (context : EmailTemplateContext) :
    RenderedEmail :=
  (email type context).rendered sp

end EmailTemplateService

end Innovents.Notifications
