import Toolwright.Name.Script.Alphabet

/-!
# Pictographs

Pictographs are named. The names are those by which people enter them in chats.
-/

namespace Toolwright.Name.Script

/-- Pictographs, each followed by its name. -/
def pictographLines : Array String := #[
  "☔umbrella_with_rain_drops ☕coffee ♈aries ♉taurus ♊gemini ♋cancer ♌leo ♍virgo ♎libra",
  "♏scorpius ♐sagittarius ♑capricorn ♒aquarius ♓pisces ♿wheelchair ⚓anchor ⚡zap",
  "⚪white_circle ⚫black_circle ⚽soccer ⚾baseball ⛄snowman_without_snow ⛅partly_sunny",
  "⛎ophiuchus ⛔no_entry ⛪church ⛲fountain ⛳golf ⛵boat ⛺tent ⛽fuelpump ✅white_check_mark",
  "✊fist ✋raised_hand ✨sparkles ❌x ❎negative_squared_cross_mark ❓question",
  "❔grey_question ❕grey_exclamation ❗exclamation ❤heart ➕heavy_plus_sign",
  "➖heavy_minus_sign ➗heavy_division_sign ➰curly_loop ➿loop ⬛black_large_square",
  "⬜white_large_square ⭐star ⭕o 〰wavy_dash 〽part_alternation_mark ㊗congratulations",
  "㊙secret 🀄mahjong 🃏black_joker 🅰a 🅱b 🅾o2 🅿parking 🆎ab 🆑cl 🆒cool 🆓free 🆔id 🆕new 🆖ng",
  "🆗ok 🆘sos 🆙up 🆚vs 🇦regional_indicator_a 🇧regional_indicator_b 🇨regional_indicator_c",
  "🇩regional_indicator_d 🇪regional_indicator_e 🇫regional_indicator_f",
  "🇬regional_indicator_g 🇭regional_indicator_h 🇮regional_indicator_i",
  "🇯regional_indicator_j 🇰regional_indicator_k 🇱regional_indicator_l",
  "🇲regional_indicator_m 🇳regional_indicator_n 🇴regional_indicator_o",
  "🇵regional_indicator_p 🇶regional_indicator_q 🇷regional_indicator_r",
  "🇸regional_indicator_s 🇹regional_indicator_t 🇺regional_indicator_u",
  "🇻regional_indicator_v 🇼regional_indicator_w 🇽regional_indicator_x",
  "🇾regional_indicator_y 🇿regional_indicator_z 🈁koko 🈂sa 🈚u7121 🈯u6307 🈲u7981 🈳u7a7a",
  "🈴u5408 🈵u6e80 🈶u6709 🈷u6708 🈸u7533 🈹u5272 🈺u55b6 🉐ideograph_advantage 🉑accept",
  "🌀cyclone 🌁foggy 🌂closed_umbrella 🌃night_with_stars 🌄sunrise_over_mountains 🌅sunrise",
  "🌆city_sunset 🌇city_sunrise 🌈rainbow 🌉bridge_at_night 🌊ocean 🌋volcano 🌌milky_way",
  "🌍earth_africa 🌎earth_americas 🌏earth_asia 🌐globe_with_meridians 🌑new_moon",
  "🌒waxing_crescent_moon 🌓first_quarter_moon 🌔moon 🌕full_moon 🌖waning_gibbous_moon",
  "🌗last_quarter_moon 🌘waning_crescent_moon 🌙crescent_moon 🌚new_moon_with_face",
  "🌛first_quarter_moon_with_face 🌜last_quarter_moon_with_face 🌝full_moon_with_face",
  "🌞sun_with_face 🌟star2 🌠stars 🌡thermometer 🌤white_sun_with_small_cloud",
  "🌥white_sun_behind_cloud 🌦white_sun_behind_cloud_with_rain 🌧cloud_with_rain",
  "🌨cloud_with_snow 🌩cloud_with_lightning 🌪cloud_with_tornado 🌫fog 🌬wind_blowing_face",
  "🌭hot_dog 🌮taco 🌯burrito 🌰chestnut 🌱seedling 🌲evergreen_tree 🌳deciduous_tree",
  "🌴palm_tree 🌵cactus 🌶hot_pepper 🌷tulip 🌸cherry_blossom 🌹rose 🌺hibiscus 🌻sunflower",
  "🌼blossom 🌽corn 🌾ear_of_rice 🌿herb 🍀four_leaf_clover 🍁maple_leaf 🍂fallen_leaf 🍃leaves",
  "🍄mushroom 🍅tomato 🍆eggplant 🍇grapes 🍈melon 🍉watermelon 🍊tangerine 🍋lemon 🍌banana",
  "🍍pineapple 🍎apple 🍏green_apple 🍐pear 🍑peach 🍒cherries 🍓strawberry 🍔hamburger 🍕pizza",
  "🍖meat_on_bone 🍗poultry_leg 🍘rice_cracker 🍙rice_ball 🍚rice 🍛curry 🍜ramen 🍝spaghetti",
  "🍞bread 🍟fries 🍠sweet_potato 🍡dango 🍢oden 🍣sushi 🍤fried_shrimp 🍥fish_cake 🍦icecream",
  "🍧shaved_ice 🍨ice_cream 🍩doughnut 🍪cookie 🍫chocolate_bar 🍬candy 🍭lollipop 🍮custard",
  "🍯honey_pot 🍰cake 🍱bento 🍲stew 🍳cooking 🍴fork_and_knife 🍵tea 🍶sake 🍷wine_glass",
  "🍸cocktail 🍹tropical_drink 🍺beer 🍻beers 🍼baby_bottle 🍽fork_and_knife_with_plate",
  "🍾bottle_with_popping_cork 🍿popcorn 🎀ribbon 🎁gift 🎂birthday 🎃jack_o_lantern",
  "🎄christmas_tree 🎅santa 🎆fireworks 🎇sparkler 🎈balloon 🎉tada 🎊confetti_ball",
  "🎋tanabata_tree 🎌crossed_flags 🎍bamboo 🎎dolls 🎏flags 🎐wind_chime 🎑rice_scene",
  "🎒school_satchel 🎓mortar_board 🎖military_medal 🎗reminder_ribbon 🎙studio_microphone",
  "🎚level_slider 🎛control_knobs 🎞film_frames 🎟admission_tickets 🎠carousel_horse",
  "🎡ferris_wheel 🎢roller_coaster 🎣fishing_pole_and_fish 🎤microphone 🎥movie_camera",
  "🎦cinema 🎧headphones 🎨art 🎩tophat 🎪circus_tent 🎫ticket 🎬clapper 🎭performing_arts",
  "🎮video_game 🎯dart 🎰slot_machine 🎱8ball 🎲game_die 🎳bowling 🎴flower_playing_cards",
  "🎵musical_note 🎶notes 🎷saxophone 🎸guitar 🎹musical_keyboard 🎺trumpet 🎻violin",
  "🎼musical_score 🎽running_shirt_with_sash 🎾tennis 🎿ski 🏀basketball 🏁checkered_flag",
  "🏂snowboarder 🏃running 🏄surfer 🏅sports_medal 🏆trophy 🏇horse_racing 🏈football",
  "🏉rugby_football 🏊swimmer 🏋weight_lifter 🏌golfer 🏍racing_motorcycle 🏎racing_car",
  "🏏cricket_bat_and_ball 🏐volleyball 🏑field_hockey_stick_and_ball",
  "🏒ice_hockey_stick_and_puck 🏓table_tennis_paddle_and_ball 🏔snow_capped_mountain",
  "🏕camping 🏖beach_with_umbrella 🏗building_construction 🏘house_buildings 🏙cityscape",
  "🏚derelict_house_building 🏛classical_building 🏜desert 🏝desert_island 🏞national_park",
  "🏟stadium 🏠house 🏡house_with_garden 🏢office 🏣post_office 🏤european_post_office",
  "🏥hospital 🏦bank 🏧atm 🏨hotel 🏩love_hotel 🏪convenience_store 🏫school 🏬department_store",
  "🏭factory 🏮lantern 🏯japanese_castle 🏰european_castle 🏳waving_white_flag",
  "🏴waving_black_flag 🏵rosette 🏷label 🏸badminton_racquet_and_shuttlecock 🏹bow_and_arrow",
  "🏺amphora 🏻emoji_modifier_fitzpatrick_type__1__2 🏼emoji_modifier_fitzpatrick_type__3",
  "🏽emoji_modifier_fitzpatrick_type__4 🏾emoji_modifier_fitzpatrick_type__5",
  "🏿emoji_modifier_fitzpatrick_type__6 🐀rat 🐁mouse2 🐂ox 🐃water_buffalo 🐄cow2 🐅tiger2",
  "🐆leopard 🐇rabbit2 🐈cat2 🐉dragon 🐊crocodile 🐋whale2 🐌snail 🐍snake 🐎racehorse 🐏ram",
  "🐐goat 🐑sheep 🐒monkey 🐓rooster 🐔chicken 🐕dog2 🐖pig2 🐗boar 🐘elephant 🐙octopus 🐚shell",
  "🐛bug 🐜ant 🐝bee 🐞beetle 🐟fish 🐠tropical_fish 🐡blowfish 🐢turtle 🐣hatching_chick",
  "🐤baby_chick 🐥hatched_chick 🐦bird 🐧penguin 🐨koala 🐩poodle 🐪dromedary_camel",
  "🐫twohump_camel 🐬dolphin 🐭mouse 🐮cow 🐯tiger 🐰rabbit 🐱cat 🐲dragon_face 🐳whale 🐴horse",
  "🐵monkey_face 🐶dog 🐷pig 🐸frog 🐹hamster 🐺wolf 🐻bear 🐼panda_face 🐽pig_nose 🐾feet",
  "🐿chipmunk 👀eyes 👁eye 👂ear 👃nose 👄lips 👅tongue 👆point_up_2 👇point_down 👈point_left",
  "👉point_right 👊punch 👋wave 👌ok_hand 👍thumbsup 👎thumbsdown 👏clap 👐open_hands 👑crown",
  "👒womans_hat 👓eyeglasses 👔necktie 👕tshirt 👖jeans 👗dress 👘kimono 👙bikini",
  "👚womans_clothes 👛purse 👜handbag 👝pouch 👞mans_shoe 👟athletic_shoe 👠high_heel 👡sandal",
  "👢boot 👣footprints 👤bust_in_silhouette 👥busts_in_silhouette 👦boy 👧girl 👨man 👩woman",
  "👪family 👫couple 👬two_men_holding_hands 👭two_women_holding_hands 👮cop 👯dancers",
  "👰bride_with_veil 👱person_with_blond_hair 👲man_with_gua_pi_mao 👳man_with_turban",
  "👴older_man 👵older_woman 👶baby 👷construction_worker 👸princess 👹japanese_ogre",
  "👺japanese_goblin 👻ghost 👼angel 👽alien 👾space_invader 👿imp 💀skull",
  "💁information_desk_person 💂guardsman 💃dancer 💄lipstick 💅nail_care 💆massage 💇haircut",
  "💈barber 💉syringe 💊pill 💋kiss 💌love_letter 💍ring 💎gem 💏couplekiss 💐bouquet",
  "💑couple_with_heart 💒wedding 💓heartbeat 💔broken_heart 💕two_hearts 💖sparkling_heart",
  "💗heartpulse 💘cupid 💙blue_heart 💚green_heart 💛yellow_heart 💜purple_heart 💝gift_heart",
  "💞revolving_hearts 💟heart_decoration 💠diamond_shape_with_a_dot_inside 💡bulb 💢anger",
  "💣bomb 💤zzz 💥boom 💦sweat_drops 💧droplet 💨dash 💩poop 💪muscle 💫dizzy 💬speech_balloon",
  "💭thought_balloon 💮white_flower 💯100 💰moneybag 💱currency_exchange 💲heavy_dollar_sign",
  "💳credit_card 💴yen 💵dollar 💶euro 💷pound 💸money_with_wings 💹chart 💺seat 💻computer",
  "💼briefcase 💽minidisc 💾floppy_disk 💿cd 📀dvd 📁file_folder 📂open_file_folder",
  "📃page_with_curl 📄page_facing_up 📅date 📆tearoff_calendar 📇card_index",
  "📈chart_with_upwards_trend 📉chart_with_downwards_trend 📊bar_chart 📋clipboard 📌pushpin",
  "📍round_pushpin 📎paperclip 📏straight_ruler 📐triangular_ruler 📑bookmark_tabs 📒ledger",
  "📓notebook 📔notebook_with_decorative_cover 📕closed_book 📖book 📗green_book 📘blue_book",
  "📙orange_book 📚books 📛name_badge 📜scroll 📝pencil 📞telephone_receiver 📟pager 📠fax",
  "📡satellite_antenna 📢loudspeaker 📣mega 📤outbox_tray 📥inbox_tray 📦package 📧e__mail",
  "📨incoming_envelope 📩envelope_with_arrow 📪mailbox_closed 📫mailbox 📬mailbox_with_mail",
  "📭mailbox_with_no_mail 📮postbox 📯postal_horn 📰newspaper 📱iphone 📲calling",
  "📳vibration_mode 📴mobile_phone_off 📵no_mobile_phones 📶signal_strength 📷camera",
  "📸camera_with_flash 📹video_camera 📺tv 📻radio 📼vhs 📽film_projector 📿prayer_beads",
  "🔀twisted_rightwards_arrows 🔁repeat 🔂repeat_one 🔃arrows_clockwise",
  "🔄arrows_counterclockwise 🔅low_brightness 🔆high_brightness 🔇mute 🔈speaker 🔉sound",
  "🔊loud_sound 🔋battery 🔌electric_plug 🔍mag 🔎mag_right 🔏lock_with_ink_pen",
  "🔐closed_lock_with_key 🔑key 🔒lock 🔓unlock 🔔bell 🔕no_bell 🔖bookmark 🔗link",
  "🔘radio_button 🔙back 🔚end 🔛on 🔜soon 🔝top 🔞underage 🔟ten 🔠capital_abcd 🔡abcd 🔢1234",
  "🔣symbols 🔤abc 🔥fire 🔦flashlight 🔧wrench 🔨hammer 🔩nut_and_bolt 🔪knife 🔫gun",
  "🔬microscope 🔭telescope 🔮crystal_ball 🔯six_pointed_star 🔰beginner 🔱trident",
  "🔲black_square_button 🔳white_square_button 🔴red_circle 🔵large_blue_circle",
  "🔶large_orange_diamond 🔷large_blue_diamond 🔸small_orange_diamond 🔹small_blue_diamond",
  "🔺small_red_triangle 🔻small_red_triangle_down 🔼arrow_up_small 🔽arrow_down_small",
  "🕉om_symbol 🕊dove_of_peace 🕋kaaba 🕌mosque 🕍synagogue 🕎menorah_with_nine_branches",
  "🕐clock1 🕑clock2 🕒clock3 🕓clock4 🕔clock5 🕕clock6 🕖clock7 🕗clock8 🕘clock9 🕙clock10",
  "🕚clock11 🕛clock12 🕜clock130 🕝clock230 🕞clock330 🕟clock430 🕠clock530 🕡clock630",
  "🕢clock730 🕣clock830 🕤clock930 🕥clock1030 🕦clock1130 🕧clock1230 🕯candle",
  "🕰mantelpiece_clock 🕳hole 🕴man_in_business_suit_levitating 🕵sleuth_or_spy",
  "🕶dark_sunglasses 🕷spider 🕸spider_web 🕹joystick 🕺man_dancing 🖇linked_paperclips",
  "🖊lower_left_ballpoint_pen 🖋lower_left_fountain_pen 🖌lower_left_paintbrush",
  "🖍lower_left_crayon 🖐raised_hand_with_fingers_splayed",
  "🖕reversed_hand_with_middle_finger_extended",
  "🖖raised_hand_with_part_between_middle_and_ring_fingers 🖤black_heart",
  "🖥desktop_computer 🖨printer 🖱three_button_mouse 🖲trackball 🖼frame_with_picture",
  "🗂card_index_dividers 🗃card_file_box 🗄file_cabinet 🗑wastebasket 🗒spiral_note_pad",
  "🗓spiral_calendar_pad 🗜compression 🗝old_key 🗞rolled__up_newspaper 🗡dagger_knife",
  "🗣speaking_head_in_silhouette 🗨left_speech_bubble 🗯right_anger_bubble",
  "🗳ballot_box_with_ballot 🗺world_map 🗻mount_fuji 🗼tokyo_tower 🗽statue_of_liberty",
  "🗾map_of_japan 🗿moyai 😀grinning 😁grin 😂joy 😃smiley 😄smile 😅sweat_smile 😆laughing",
  "😇innocent 😈smiling_imp 😉wink 😊blush 😋yum 😌relieved 😍heart_eyes 😎sunglasses 😏smirk",
  "😐neutral_face 😑expressionless 😒unamused 😓sweat 😔pensive 😕confused 😖confounded",
  "😗kissing 😘kissing_heart 😙kissing_smiling_eyes 😚kissing_closed_eyes 😛stuck_out_tongue",
  "😜stuck_out_tongue_winking_eye 😝stuck_out_tongue_closed_eyes 😞disappointed 😟worried",
  "😠angry 😡rage 😢cry 😣persevere 😤triumph 😥disappointed_relieved 😦frowning 😧anguished",
  "😨fearful 😩weary 😪sleepy 😫tired_face 😬grimacing 😭sob 😮open_mouth 😯hushed 😰cold_sweat",
  "😱scream 😲astonished 😳flushed 😴sleeping 😵dizzy_face 😶no_mouth 😷mask 😸smile_cat",
  "😹joy_cat 😺smiley_cat 😻heart_eyes_cat 😼smirk_cat 😽kissing_cat 😾pouting_cat",
  "😿crying_cat_face 🙀scream_cat 🙁slightly_frowning_face 🙂slightly_smiling_face",
  "🙃upside__down_face 🙄face_with_rolling_eyes 🙅no_good 🙆ok_woman 🙇bow 🙈see_no_evil",
  "🙉hear_no_evil 🙊speak_no_evil 🙋raising_hand 🙌raised_hands 🙍person_frowning",
  "🙎person_with_pouting_face 🙏pray 🚀rocket 🚁helicopter 🚂steam_locomotive 🚃railway_car",
  "🚄bullettrain_side 🚅bullettrain_front 🚆train2 🚇metro 🚈light_rail 🚉station 🚊tram",
  "🚋tram_car 🚌bus 🚍oncoming_bus 🚎trolleybus 🚏busstop 🚐minibus 🚑ambulance 🚒fire_engine",
  "🚓police_car 🚔oncoming_police_car 🚕taxi 🚖oncoming_taxi 🚗red_car 🚘oncoming_automobile",
  "🚙blue_car 🚚truck 🚛articulated_lorry 🚜tractor 🚝monorail 🚞mountain_railway",
  "🚟suspension_railway 🚠mountain_cableway 🚡aerial_tramway 🚢ship 🚣rowboat 🚤speedboat",
  "🚥traffic_light 🚦vertical_traffic_light 🚧construction 🚨rotating_light",
  "🚩triangular_flag_on_post 🚪door 🚫no_entry_sign 🚬smoking 🚭no_smoking",
  "🚮put_litter_in_its_place 🚯do_not_litter 🚰potable_water 🚱non__potable_water 🚲bike",
  "🚳no_bicycles 🚴bicyclist 🚵mountain_bicyclist 🚶walking 🚷no_pedestrians",
  "🚸children_crossing 🚹mens 🚺womens 🚻restroom 🚼baby_symbol 🚽toilet 🚾wc 🚿shower 🛀bath",
  "🛁bathtub 🛂passport_control 🛃customs 🛄baggage_claim 🛅left_luggage 🛋couch_and_lamp",
  "🛌sleeping_accommodation 🛍shopping_bags 🛎bellhop_bell 🛏bed 🛐place_of_worship",
  "🛑stop_sign 🛒shopping_cart 🛕hindu_temple 🛠hammer_and_wrench 🛡shield 🛢oil_drum",
  "🛣motorway 🛤railway_track 🛥motor_boat 🛩small_airplane 🛫airplane_departure",
  "🛬airplane_arriving 🛳passenger_ship 🛴kick_scooter 🛵motor_scooter 🛶canoe 🛷sled",
  "🛸flying_saucer 🛹skateboard 🛺auto_rickshaw 🟠orange_circle 🟡yellow_circle",
  "🟢green_circle 🟣purple_circle 🟤brown_circle 🟥red_square 🟦blue_square 🟧orange_square",
  "🟨yellow_square 🟩green_square 🟪purple_square 🟫brown_square 🤍white_heart 🤎brown_heart",
  "🤏pinching_hand 🤐zipper__mouth_face 🤑money__mouth_face 🤒face_with_thermometer",
  "🤓nerd_face 🤔thinking_face 🤕face_with_head__bandage 🤖robot 🤗hugging_face",
  "🤘sign_of_the_horns 🤙call_me_hand 🤚raised_back_of_hand 🤛leftfacing_fist",
  "🤜rightfacing_fist 🤝handshake 🤞crossed_fingers 🤟loveyou_gesture 🤠cowboy_hat_face",
  "🤡clown_face 🤢nauseated_face 🤣rolling_on_the_floor_laughing 🤤drooling_face",
  "🤥lying_face 🤦person_facepalming 🤧sneezing_face 🤨face_with_raised_eyebrow 🤩starstruck",
  "🤪zany_face 🤫shushing_face 🤬face_with_symbols_on_mouth 🤭face_with_hand_over_mouth",
  "🤮face_vomiting 🤯exploding_head 🤰pregnant_woman 🤱breastfeeding 🤲palms_up_together",
  "🤳selfie 🤴prince 🤵man_in_tuxedo 🤶mrs_claus 🤷person_shrugging 🤸person_cartwheeling",
  "🤹person_juggling 🤺person_fencing 🤼people_wrestling 🤽person_playing_water_polo",
  "🤾person_playing_handball 🤿diving_mask 🥀wilted_flower 🥁drum 🥂clinking_glasses",
  "🥃tumbler_glass 🥄spoon 🥅goal_net 🥇1st_place_medal 🥈2nd_place_medal 🥉3rd_place_medal",
  "🥊boxing_glove 🥋martial_arts_uniform 🥌curling_stone 🥍lacrosse 🥎softball 🥏flying_disc",
  "🥐croissant 🥑avocado 🥒cucumber 🥓bacon 🥔potato 🥕carrot 🥖baguette_bread 🥗green_salad",
  "🥘shallow_pan_of_food 🥙stuffed_flatbread 🥛glass_of_milk 🥜peanuts 🥝kiwi_fruit",
  "🥞pancakes 🥟dumpling 🥠fortune_cookie 🥡takeout_box 🥢chopsticks 🥣bowl_with_spoon",
  "🥤cup_with_straw 🥥coconut 🥦broccoli 🥧pie 🥨pretzel 🥩cut_of_meat 🥪sandwich 🥫canned_food",
  "🥬leafy_green 🥭mango 🥮moon_cake 🥯bagel 🥰smiling_face_with_3_hearts 🥱yawning_face",
  "🥳partying_face 🥴woozy_face 🥵hot_face 🥶cold_face 🥺pleading_face 🥻sari 🥼lab_coat",
  "🥽goggles 🥾hiking_boot 🥿flat_shoe 🦀crab 🦁lion_face 🦂scorpion 🦃turkey 🦄unicorn 🦅eagle",
  "🦆duck 🦇bat 🦈shark 🦉owl 🦊fox_face 🦋butterfly 🦌deer 🦍gorilla 🦎lizard 🦏rhinoceros",
  "🦐shrimp 🦑squid 🦒giraffe 🦓zebra 🦔hedgehog 🦕sauropod 🦖trex 🦗cricket 🦘kangaroo 🦙llama",
  "🦚peacock 🦛hippopotamus 🦜parrot 🦝raccoon 🦞lobster 🦟mosquito 🦠microbe 🦡badger 🦢swan",
  "🦥sloth 🦦otter 🦧orangutan 🦨skunk 🦩flamingo 🦪oyster 🦮guide_dog 🦯probing_cane 🦰red_hair",
  "🦱curly_hair 🦲bald 🦳white_hair 🦴bone 🦵leg 🦶foot 🦷tooth 🦸superhero 🦹supervillain",
  "🦺safety_vest 🦻ear_with_hearing_aid 🦼motorized_wheelchair 🦽manual_wheelchair",
  "🦾mechanical_arm 🦿mechanical_leg 🧀cheese_wedge 🧁cupcake 🧂salt 🧃beverage_box 🧄garlic",
  "🧅onion 🧆falafel 🧇waffle 🧈butter 🧉mate 🧊ice 🧍person_standing 🧎person_kneeling",
  "🧏deaf_person 🧐face_with_monocle 🧑adult 🧒child 🧓older_adult 🧔bearded_person",
  "🧕woman_with_headscarf 🧖person_in_steamy_room 🧗person_climbing",
  "🧘person_in_lotus_position 🧙mage 🧚fairy 🧛vampire 🧜merperson 🧝elf 🧞genie 🧟zombie",
  "🧠brain 🧡orange_heart 🧢billed_cap 🧣scarf 🧤gloves 🧥coat 🧦socks 🧧red_envelope",
  "🧨firecracker 🧩jigsaw 🧪test_tube 🧫petri_dish 🧬dna 🧭compass 🧮abacus 🧯fire_extinguisher",
  "🧰toolbox 🧱brick 🧲magnet 🧳luggage 🧴lotion_bottle 🧵thread 🧶yarn 🧷safety_pin",
  "🧸teddy_bear 🧹broom 🧺basket 🧻roll_of_paper 🧼soap 🧽sponge 🧾receipt 🧿nazar_amulet",
  "🩰ballet_shoes 🩱onepiece_swimsuit 🩲briefs 🩳shorts 🩸drop_of_blood 🩹adhesive_bandage",
  "🩺stethoscope 🪀yoyo 🪁kite 🪐ringed_planet 🪑chair 🪒razor 🪓axe 🪔diya_lamp 🪕banjo"]

/-- The pictographs of a line with their names. -/
def pictographNames (line : String) : List (Nat × String) :=
  (line.splitOn " ").filterMap fun word =>
    match word.toList with
    | [] => none
    | picture :: name => some (picture.toNat, String.ofList name)

/-- All pictographs with their names, in order. -/
def pictographTable : Array (Nat × String) :=
  pictographLines.foldl (fun table line => table ++ (pictographNames line).toArray) #[]

/-- The name of a pictograph. -/
def pictograph? (code : Nat) : Option String :=
  lookup? pictographTable code 0 pictographTable.size

end Toolwright.Name.Script
