import Rehearsal.Engine.Basic
import Rehearsal.Text.Basic

/-!
A page that is described rather than rendered.

It knows which selectors exist, which targets are visible, the texts on it and the attributes of its
elements, and it can be told what a call costs, when a call fails, and what a call changes.
-/

namespace Rehearsal

structure Page where
  url : String
  selectors : List String
  visible : List String
  body : String
  texts : Association String
  attributes : List ((String × String) × String)
  /-- Selectors that exist only after as many probes in vain. -/
  delayed : Association Nat
  urlAfterSubmit : Option String
  failingCaptures : Bool
  deriving DecidableEq, Repr, Inhabited

/-- One thing that is said about a page. -/
inductive PageFact where
  | selector (selector : String)
  | selectorAfter (selector : String) (probes : Nat)
  | visible (target : String)
  | text (text : String)
  | elementText (selector text : String)
  | propertyOf (selector name value : String)
  | url (url : String)
  | navigatingOnSubmit (url : String)
  | failingCaptures
  deriving DecidableEq, Repr, Inhabited

namespace Page

/-- A page without anything on it. -/
def blank : Page :=
  { url := "", selectors := [], visible := [], body := "", texts := [], attributes := [],
    delayed := [], urlAfterSubmit := none, failingCaptures := false }

def withSelector (selector : String) (page : Page) : Page :=
  { page with selectors := if page.selectors.contains selector then page.selectors
      else selector :: page.selectors }

/-- The page once a fact about it is known. -/
def learn (page : Page) : PageFact → Page
  | .selector target => page.withSelector target
  | .selectorAfter target probes => { page with delayed := page.delayed.insert target probes }
  | .visible target =>
      let page := page.withSelector target
      { page with visible := if page.visible.contains target then page.visible
          else target :: page.visible }
  | .text words => { page with body := page.body ++ words ++ "\n" }
  | .elementText target words =>
      let page := page.withSelector target
      { page with texts := page.texts.insert target words }
  | .propertyOf target name value =>
      let page := page.withSelector target
      { page with attributes :=
          ((target, name), value) :: page.attributes.filter (·.1 != (target, name)) }
  | .url address => { page with url := address }
  | .navigatingOnSubmit address => { page with urlAfterSubmit := some address }
  | .failingCaptures => { page with failingCaptures := true }

def ofFacts (facts : List PageFact) : Page :=
  facts.foldl learn blank

def hasSelector (selector : String) (page : Page) : Bool :=
  page.selectors.contains selector

/-- Whether a selector exists.  One that is delayed comes a probe nearer, and stays once it is
there. -/
def probe (selector : String) (page : Page) : Bool × Page :=
  match page.delayed.get? selector with
  | some 0 =>
      (true,
        { page.withSelector selector with
          delayed := page.delayed.filter fun entry => entry.1 != selector })
  | some (probes + 1) => (false, { page with delayed := page.delayed.insert selector probes })
  | none => (page.hasSelector selector, page)

/-- Answers a call. -/
def answer : (call : Call) → Page → Except EngineError call.Reply × Page
  | .start url, page | .visit url, page => (.ok (), { page with url })
  | .currentUrl, page => (.ok page.url, page)
  | .selectorExists selector, page =>
      let (found, page) := page.probe selector
      (.ok found, page)
  | .textPresent text, page => (.ok (Text.contains page.body text), page)
  | .isVisible target, page => (.ok (page.visible.contains target), page)
  | .fill selector _ submit, page =>
      if !page.hasSelector selector then (.error (.noSuchElement selector), page)
      else (.ok (), if submit then { page with url := page.urlAfterSubmit.getD page.url } else page)
  | .click selector, page =>
      (if page.hasSelector selector then .ok () else .error (.noSuchElement selector), page)
  | .clickLabel label _, page =>
      (if Text.contains page.body label then .ok () else .error (.noSuchLabel label), page)
  | .fetchText selector, page => (.ok ((page.texts.get? selector).getD ""), page)
  | .attributeOf selector name, page => (.ok (page.attributes.lookup (selector, name)), page)
  | .capture path, page =>
      (if page.failingCaptures then .error (.capture path "disk full") else .ok (), page)
  | .finish, page => (.ok (), page)

end Page

/-- The page alone as an engine: every call is answered at once. -/
def Page.engine : Engine Page :=
  { accept := fun _ page => page
    delay := fun _ _ => 0
    silent := fun _ _ => false
    answer := Page.answer
    closes := true }

end Rehearsal
