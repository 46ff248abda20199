import QmlAssist.Catalog.Export
import QmlAssist.Text.LetterCase

/-!
# Reference pages

Every export has a page in the API reference of its publisher, and the first
segment of the module path tells the publisher.
-/

namespace QmlAssist

/-- The sites that host reference pages. -/
inductive Site where
  /-- The AppStudio framework, with modules below `ArcGIS`. -/
  | appStudio
  /-- The ArcGIS Runtime, with modules below `Esri`. -/
  | arcGisRuntime
  /-- Qt itself, and every module of unknown publisher. -/
  | qt
deriving DecidableEq, Repr

namespace Site

/-- The site with the pages of a module.  A publisher's own name is no module
below it, so a path of one segment belongs to Qt. -/
def ofSegments : List String → Site
  | first :: _ :: _ =>
      if first = "ArcGIS" then .appStudio
      else if first = "Esri" then .arcGisRuntime
      else .qt
  | _ => .qt

/-- The part of a page's address in front of module and component. -/
def base : Site → String
  | .appStudio => "https://doc.arcgis.com/en/appstudio/api/reference/framework/qml-"
  | .arcGisRuntime => "https://developers.arcgis.com/qt/latest/qml/api-reference/qml-"
  | .qt => "https://doc.qt.io/qt-5/qml-"

/-- The part of a page's address after module and component. -/
def ending : Site → String
  | .appStudio => ""
  | .arcGisRuntime => ".html"
  | .qt => ".html"

end Site

namespace Export

/-- The site with the reference page of an export. -/
def site (e : Export) : Site :=
  Site.ofSegments e.segments

/-- The address of an export's reference page: module path and component in
lower case, joined by hyphens. -/
def url (e : Export) : String :=
  e.site.base ++ Text.lowercase ("-".intercalate e.segments) ++ "-" ++
    Text.lowercase e.component ++ e.site.ending

end Export

end QmlAssist
