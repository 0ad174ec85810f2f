import PullReview.Text.Percent
import PullReview.Text.Blank

/-!
# Allowed origins

The setting lists origins with commas between them. An origin is allowed if it stands in the list
exactly, or if the list has a star.

| here | there |
| --- | --- |
| `allowsOrigin` | `CORSMiddleware` with `allowed_origins` (main:72-80) |
-/

namespace PullReview.Web

/-- The origins of the setting, without blanks around them and without empty ones. -/
def allowedOrigins (setting : String) : List String :=
  (((Text.splitOn ',' setting.toList).map (Text.strip Text.isBlank)).filter (!·.isEmpty)).map String.ofList

/-- Whether pages of an origin may read answers. -/
def allowsOrigin (setting origin : String) : Bool :=
  let allowed := allowedOrigins setting
  allowed.contains "*" || allowed.contains origin

end PullReview.Web
