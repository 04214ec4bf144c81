import AngularScaffold.OrderedMap

namespace AngularScaffold.Angular

def coreModule : String := "@angular/core"

def routerModule : String := "@angular/router"

def wellKnown : List (String × String) :=
  [("CUSTOM_ELEMENTS_SCHEMA", coreModule),
   ("NO_ERRORS_SCHEMA", coreModule),
   ("APP_INITIALIZER", coreModule),
   ("ErrorHandler", coreModule),
   ("provideZoneChangeDetection", coreModule),
   ("CommonModule", "@angular/common"),
   ("AsyncPipe", "@angular/common"),
   ("NgClass", "@angular/common"),
   ("NgFor", "@angular/common"),
   ("NgIf", "@angular/common"),
   ("BrowserModule", "@angular/platform-browser"),
   ("provideClientHydration", "@angular/platform-browser"),
   ("BrowserAnimationsModule", "@angular/platform-browser/animations"),
   ("provideAnimations", "@angular/platform-browser/animations"),
   ("FormsModule", "@angular/forms"),
   ("ReactiveFormsModule", "@angular/forms"),
   ("HttpClientModule", "@angular/common/http"),
   ("provideHttpClient", "@angular/common/http"),
   ("withFetch", "@angular/common/http"),
   ("withInterceptors", "@angular/common/http"),
   ("RouterModule", routerModule),
   ("RouterOutlet", routerModule),
   ("RouterLink", routerModule),
   ("provideRouter", routerModule),
   ("withComponentInputBinding", routerModule)]

def wellKnown? (name : String) : Option String :=
  Pairs.get? name wellKnown

end AngularScaffold.Angular
