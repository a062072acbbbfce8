import Restyle.Vocabulary.Table

/-!
# Names of targets

What can be styled, under all the names people use for it.  Common misspellings are known
too; a hit on one of them is reported as a guess.
-/

set_option autoImplicit false

namespace Restyle.Vocabulary

/-- Names of targets with the canonical one. -/
def targetNames : Table := [
    ("background", "background"), ("background color", "background"), ("bg", "background"),
    ("page", "background"), ("page color", "background"), ("page background", "background"),
    ("app background", "background"), ("main background", "background"),
    ("back color", "background"), ("behind", "background"), ("backdrop", "background"),
    ("canvas", "background"), ("primary", "primary"), ("primary color", "primary"),
    ("main color", "primary"), ("main", "primary"), ("brand", "primary"),
    ("brand color", "primary"), ("theme color", "primary"), ("app color", "primary"),
    ("accent", "primary"), ("highlight", "primary"), ("secondary", "secondary"),
    ("secondary color", "secondary"), ("second color", "secondary"), ("second", "secondary"),
    ("alternate", "secondary"), ("alternative", "secondary"), ("text", "text"),
    ("text color", "text"), ("font color", "text"), ("font", "text"), ("foreground", "text"),
    ("writing", "text"), ("words", "text"), ("letters", "text"), ("paragraphs", "text"),
    ("content", "text"), ("copy", "text"), ("reading", "text"), ("card", "card"),
    ("cards", "card"), ("card color", "card"), ("surface", "card"), ("surfaces", "card"),
    ("panel", "card"), ("panels", "card"), ("box", "card"), ("boxes", "card"),
    ("container", "card"), ("containers", "card"), ("section", "card"), ("sections", "card"),
    ("tile", "card"), ("tiles", "card"), ("block", "card"), ("blocks", "card"),
    ("widget", "card"), ("widgets", "card"), ("button", "button"), ("buttons", "button"),
    ("button color", "button"), ("btn", "button"), ("btns", "button"), ("click", "button"),
    ("clickable", "button"), ("actions", "button"), ("border", "border"), ("borders", "border"),
    ("border color", "border"), ("outlines", "border"), ("edge", "border"), ("frame", "border"),
    ("line", "border"), ("lines", "border"), ("divider", "border"), ("dividers", "border"),
    ("separator", "border"), ("sidebar", "sidebar"), ("side bar", "sidebar"),
    ("side menu", "sidebar"), ("navigation", "sidebar"), ("nav", "sidebar"), ("menu", "sidebar"),
    ("left menu", "sidebar"), ("left panel", "sidebar"), ("side panel", "sidebar"),
    ("popover", "popover"), ("popup", "popover"), ("pop up", "popover"), ("dropdown", "popover"),
    ("drop down", "popover"), ("menu popup", "popover"), ("overlay", "popover"),
    ("modal", "popover"), ("dialog", "popover"), ("tooltip", "popover"), ("input", "input"),
    ("inputs", "input"), ("input field", "input"), ("text field", "input"), ("text box", "input"),
    ("textbox", "input"), ("form field", "input"), ("form fields", "input"), ("field", "input"),
    ("fields", "input"), ("form", "input"), ("forms", "input"), ("ring", "ring"),
    ("focus", "ring"), ("focus ring", "ring"), ("outline", "ring"), ("focus outline", "ring"),
    ("selected", "ring"), ("selection", "ring"), ("active", "ring"), ("error", "error"),
    ("error color", "error"), ("danger", "error"), ("destructive", "error"), ("delete", "error"),
    ("remove", "error"), ("warning", "error"), ("alert", "error"), ("problem", "error"),
    ("bad", "error"), ("muted", "muted"), ("muted color", "muted"), ("subtle", "muted"),
    ("faded", "muted"), ("light text", "muted"), ("gray text", "muted"), ("dimmed", "muted"),
    ("secondary text", "muted"), ("placeholder", "muted"), ("hint", "muted"),
    ("caption", "muted"), ("chart", "chart"), ("charts", "chart"), ("chart color", "chart"),
    ("graph", "chart"), ("graphs", "chart"), ("data", "chart"), ("visualization", "chart"),
    ("pie chart", "chart"), ("bar chart", "chart"), ("line chart", "chart"),
    ("chart 1", "chart-1"), ("chart1", "chart-1"), ("chart 2", "chart-2"), ("chart2", "chart-2"),
    ("chart 3", "chart-3"), ("chart3", "chart-3"), ("chart 4", "chart-4"), ("chart4", "chart-4"),
    ("chart 5", "chart-5"), ("chart5", "chart-5"), ("radius", "radius"), ("corner", "radius"),
    ("corners", "radius"), ("rounding", "radius"), ("border radius", "radius"),
    ("roundness", "radius"), ("curved", "radius"), ("curves", "radius"), ("edges", "radius"),
    ("sharp", "radius"), ("soft", "radius"), ("spacing", "spacing"), ("space", "spacing"),
    ("padding", "spacing"), ("gap", "spacing"), ("gaps", "spacing"), ("whitespace", "spacing"),
    ("white space", "spacing"), ("density", "spacing"), ("font size", "font-size"),
    ("text size", "font-size"), ("type size", "font-size"), ("font-size", "font-size"),
    ("font weight", "font-weight"), ("text weight", "font-weight"), ("weight", "font-weight"),
    ("boldness", "font-weight"), ("font-weight", "font-weight")]

/-- Common misspellings with the canonical name. -/
def targetMisspellings : Table := [
    ("backround", "background"), ("backgroud", "background"), ("backgorund", "background"),
    ("backgound", "background"), ("bckground", "background"), ("bacground", "background"),
    ("backgrund", "background"), ("backgroung", "background"), ("backgrounf", "background"),
    ("baclground", "background"), ("primery", "primary"), ("primay", "primary"),
    ("praimary", "primary"), ("pirmary", "primary"), ("pirmairy", "primary"),
    ("secondry", "secondary"), ("secndary", "secondary"), ("secodary", "secondary"),
    ("txt", "text"), ("txet", "text"), ("forground", "text"), ("foregound", "text"),
    ("crad", "card"), ("cadr", "card"), ("buton", "button"), ("buttn", "button"),
    ("botton", "button"), ("butoon", "button"), ("buttton", "button"), ("boarder", "border"),
    ("boarders", "border"), ("broder", "border"), ("boder", "border"), ("sdiebar", "sidebar"),
    ("sidbar", "sidebar"), ("sidebare", "sidebar"), ("siedbar", "sidebar"), ("inout", "input"),
    ("imput", "input"), ("inoput", "input"), ("raduis", "radius"), ("radious", "radius"),
    ("raius", "radius"), ("raidus", "radius"), ("cornres", "radius"), ("conrers", "radius"),
    ("roudned", "radius"), ("roundd", "radius"), ("rounder", "radius")]

/-- All names of targets, the misspelt ones last. -/
def targetWords : Table := targetNames ++ targetMisspellings

end Restyle.Vocabulary
