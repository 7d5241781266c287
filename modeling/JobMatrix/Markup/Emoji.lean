import JobMatrix.Text.Blank

/-! Emoji by name. A name between colons stands for its emoji, with a variant after a dash if it is
to be shown as text or as a picture. -/

namespace JobMatrix.Markup.Emoji

/-- Names and their emoji in turn, after the beginning that the names of a line share. Strokes part
the names of one emoji. -/
def table : List String := [
  " +1/thumbsup 👍 -1/__1/thumbsdown 👎 100/hundred_points 💯 1234 🔢 1st_place_medal 🥇",
  " 2nd_place_medal 🥈 3rd_place_medal 🥉 8ball/pool_8_ball 🎱 a/a_button_(blood_type) 🅰",
  " ab/ab_button_(blood_type) 🆎 abacus 🧮 abc 🔤 abcd 🔡 accept 🉑 adhesive_bandage 🩹",
  " admission_tickets 🎟 aerial_tramway 🚡 airplane ✈ alarm_clock ⏰ alembic ⚗ alien 👽",
  " alien_monster/space_invader 👾 ambulance 🚑 american_football/football 🏈 amphora 🏺 anchor ⚓",
  " angel 👼 anger/anger_symbol 💢 angry/angry_face 😠 angry_face_with_horns/imp 👿",
  " anguished/anguished_face 😧 ant 🐜 antenna_bars/signal_strength 📶",
  " anxious_face_with_sweat/cold_sweat 😰 apple 🍎 aquarius ♒ aries ♈ art/artist_palette 🎨",
  " articulated_lorry 🚛 astonished/astonished_face 😲 athletic_shoe 👟 atm/atm_sign 🏧 atom_symbol ⚛",
  " auto_rickshaw 🛺 automobile/car/red_car 🚗 avocado 🥑 axe 🪓 b/b_button_(blood_type) 🅱",
  " back/back_arrow 🔙 bacon 🥓 badger 🦡 badminton/badminton_racquet_and_shuttlecock 🏸 bagel 🥯",
  " baggage_claim 🛄 baguette_bread 🥖 balance_scale/scales ⚖ bald 🦲 bald_man 👨‍🦲 bald_woman 👩‍🦲",
  " ballet_shoes 🩰 balloon 🎈 bamboo/pine_decoration 🎍 banana 🍌 bangbang ‼ banjo 🪕 bank 🏦",
  " bar_chart 📊 barber/barber_pole 💈 baseball ⚾ basket 🧺 basketball 🏀 bat 🦇 bath 🛀 bathtub 🛁",
  " battery 🔋 beach_with_umbrella 🏖 beaming_face_with_smiling_eyes/grin 😁 bear/bear_face 🐻",
  " beating_heart/heartbeat 💓 bed 🛏 bee/honeybee 🐝 beer/beer_mug 🍺 beers 🍻 beetle/lady_beetle 🐞",
  " beginner 🔰 bell 🔔 bell_with_slash/no_bell 🔕 bellhop_bell 🛎 bento/bento_box 🍱 beverage_box 🧃",
  " bicycle/bike 🚲 bicyclist 🚴 bikini 👙 billed_cap 🧢 biohazard/biohazard_sign ☣ bird 🐦",
  " birthday/birthday_cake 🎂 blossom 🌼 blowfish 🐡 blush 😊 boar 🐗 boat/sailboat ⛵ bomb 💣 bone 🦴",
  " book 📖 bookmark 🔖 bookmark_tabs 📑 books 📚 boom/collision 💥 boot 👢 bottle_with_popping_cork 🍾",
  " bouquet 💐 bow 🙇 bow_and_arrow 🏹 bowl_with_spoon 🥣 bowling 🎳 boxing_glove 🥊 brain 🧠 bread 🍞",
  " brick 🧱 bridge_at_night 🌉 briefcase 💼 briefs 🩲 bright_button/high_brightness 🔆 broccoli 🥦",
  " broken_heart 💔 broom 🧹 bug 🐛 building_construction 🏗 bulb 💡 bullet_train 🚅 burrito 🌯 bus 🚌",
  " bus_stop/busstop 🚏 bust_in_silhouette 👤 busts_in_silhouette 👥 butter 🧈 butterfly 🦋 cactus 🌵",
  " cake/shortcake 🍰 calendar/tear-off_calendar 📆 calling 📲 camel/two-hump_camel 🐫 camera 📷",
  " camera_with_flash 📸 camping 🏕 cancer ♋ candle 🕯 candy 🍬 canned_food 🥫 canoe 🛶 capital_abcd 🔠",
  " capricorn ♑ carousel_horse 🎠 carp_streamer/flags 🎏 carrot 🥕 castle 🏰 cat/cat_face 🐱 cat2 🐈",
  " cd/optical_disk 💿 chains ⛓ chair 🪑 chart 💹 checkered_flag/chequered_flag 🏁 cheese_wedge 🧀",
  " cherries 🍒 cherry_blossom 🌸 chess_pawn ♟ chestnut 🌰 chicken 🐔 children_crossing 🚸 chipmunk 🐿",
  " chocolate_bar 🍫 chopsticks 🥢 christmas_tree 🎄 church ⛪ cigarette/smoking 🚬 cinema 🎦",
  " circled_m/m Ⓜ circus_tent 🎪 city_sunrise/sunset 🌇 city_sunset/cityscape_at_dusk 🌆 cityscape 🏙",
  " cl/cl_button 🆑 clamp/compression 🗜 clap 👏 clapper/clapper_board 🎬 classical_building 🏛",
  " clipboard 📋 clock1/one_o’clock 🕐 clock10/ten_o’clock 🕙 clock1030/ten-thirty 🕥",
  " clock11/eleven_o’clock 🕚 clock1130/eleven-thirty 🕦 clock12/twelve_o’clock 🕛",
  " clock1230/twelve-thirty 🕧 clock130/one-thirty 🕜 clock2/two_o’clock 🕑 clock230/two-thirty 🕝",
  " clock3/three_o’clock 🕒 clock330/three-thirty 🕞 clock4/four_o’clock 🕓 clock430/four-thirty 🕟",
  " clock5/five_o’clock 🕔 clock530/five-thirty 🕠 clock6/six_o’clock 🕕 clock630/six-thirty 🕡",
  " clock7/seven_o’clock 🕖 clock730/seven-thirty 🕢 clock8/eight_o’clock 🕗 clock830/eight-thirty 🕣",
  " clock9/nine_o’clock 🕘 clock930/nine-thirty 🕤 clockwise_vertical_arrows 🔃 cloud ☁ clown_face 🤡",
  " club_suit/clubs ♣ clutch_bag/pouch 👝 coat 🧥 cocktail/cocktail_glass 🍸 coconut 🥥",
  " cocos_(keeling)_islands 🇨🇨 coffee ☕ coffin ⚰ cold_face 🥶 comet ☄ compass 🧭",
  " computer/laptop_computer 💻 computer_disk/minidisc 💽 computer_mouse/three_button_mouse 🖱",
  " confetti_ball 🎊 confounded/confounded_face 😖 confused/confused_face 😕",
  " congratulations/japanese_congratulations_button ㊗ construction 🚧 control_knobs 🎛",
  " convenience_store 🏪 cooked_rice/rice 🍚 cookie 🍪 cooking/egg 🍳 cool/cool_button 🆒 cop 👮",
  " copyright © corn/ear_of_corn 🌽 couch_and_lamp 🛋 counterclockwise_arrows_button 🔄",
  " couple/man_and_woman_holding_hands 👫 couplekiss 💏 cow/cow_face 🐮 cow2 🐄 cowboy_hat_face 🤠",
  " crab 🦀 crayon 🖍 credit_card 💳 crescent_moon 🌙 cricket 🦗 crocodile 🐊 croissant 🥐",
  " cross_mark/x ❌ cross_mark_button/negative_squared_cross_mark ❎ crown 👑 cry/crying_face 😢",
  " crying_cat_face 😿 crystal_ball 🔮 cucumber 🥒 cup_with_straw 🥤 cupcake 🧁 cupid 💘",
  " curling_stone 🥌 curly_hair 🦱 curly_loop ➰ currency_exchange 💱 curry/curry_rice 🍛 custard 🍮",
  " customs 🛃 cut_of_meat 🥩 cyclone 🌀 czechia 🇨🇿 dagger/dagger_knife 🗡 dancer 💃 dancers 👯 dango 🍡",
  " dark_skin_tone 🏿 dark_sunglasses 🕶 dart/direct_hit 🎯 dash/dashing_away 💨 date 📅 deaf_person 🧏",
  " deciduous_tree 🌳 deer 🦌 delivery_truck/truck 🚚 department_store 🏬 desert 🏜 desert_island 🏝",
  " desktop_computer 🖥 diamonds ♦ dim_button/low_brightness 🔅 disappointed 😞 diving_mask 🤿",
  " diya_lamp 🪔 dizzy 💫 dizzy_face 😵 dna 🧬 do_not_litter/no_littering 🚯 dog/dog_face 🐶 dog2 🐕",
  " dollar/dollar_banknote 💵 dolls 🎎 dolphin/flipper 🐬 door 🚪",
  " dotted_six-pointed_star/six_pointed_star 🔯 doughnut 🍩 dove/dove_of_peace 🕊 down-left_arrow ↙",
  " down-right_arrow ↘ down_arrow ⬇ downcast_face_with_sweat/sweat 😓 downwards_button 🔽 dragon 🐉",
  " dragon_face 🐲 dress 👗 dromedary_camel 🐪 drooling_face 🤤 drop_of_blood 🩸 droplet 💧 drum 🥁",
  " duck 🦆 dumpling 🥟 dvd 📀 e-mail/e__mail 📧 eagle 🦅 ear_of_rice/sheaf_of_rice 🌾",
  " ear_with_hearing_aid 🦻 eggplant 🍆 eight 8️⃣ eight-pointed_star/eight_pointed_black_star ✴",
  " eight-spoked_asterisk/eight_spoked_asterisk ✳ electric_plug 🔌 elephant 🐘 email/envelope ✉",
  " end/end_arrow 🔚 england 🏴󠁧󠁢󠁥󠁮󠁧󠁿 envelope_with_arrow 📩 euro/euro_banknote 💶 evergreen_tree 🌲",
  " ewe/sheep 🐑 exclamation/exclamation_mark ❗ exclamation_question_mark/interrobang ⁉",
  " exploding_head 🤯 expressionless/expressionless_face 😑 eye 👁 eye_in_speech_bubble 👁️‍🗨️",
  " eyeglasses/glasses 👓 eyes 👀 facepunch/punch 👊 factory 🏭 falafel 🧆 fallen_leaf 🍂 family 👪",
  " fast-forward_button ⏩ fax/fax_machine 📠 fearful/fearful_face 😨 feet/paw_prints 🐾",
  " female_sign ♀ ferris_wheel 🎡 ferry ⛴ file_cabinet 🗄 file_folder 📁 fire 🔥 fire_engine 🚒",
  " fire_extinguisher 🧯 firecracker 🧨 fireworks 🎆 fish 🐟 fish_cake/fish_cake_with_swirl 🍥 fist ✊",
  " five/keycap_5 5️⃣ flag_in_hole/golf ⛳ flamingo 🦩 flashlight 🔦 flat_shoe 🥿",
  " fleur-de-lis/fleur__de__lis ⚜ floppy_disk 💾 flower_playing_cards 🎴 flushed/flushed_face 😳",
  " fog 🌫 foggy 🌁 foot 🦶 footprints 👣 fortune_cookie 🥠 fountain ⛲ fountain_pen 🖋 four 4️⃣",
  " four_leaf_clover 🍀 fox_face 🦊 frame_with_picture/framed_picture 🖼 free/free_button 🆓",
  " french_fries/fries 🍟 fried_shrimp 🍤 frog/frog_face 🐸 front-facing_baby_chick/hatched_chick 🐥",
  " frowning 😦 fuel_pump/fuelpump ⛽ funeral_urn ⚱ game_die 🎲 garlic 🧄 gear ⚙ gem/gem_stone 💎",
  " gemini ♊ genie 🧞 ghost 👻 gift/wrapped_gift 🎁 gift_heart 💝 giraffe 🦒 glass_of_milk 🥛",
  " globe_with_meridians 🌐 gloves 🧤 glowing_star/star2 🌟 goal_net 🥅 goat 🐐 goblin 👺 goggles 🥽",
  " golfer 🏌 gorilla 🦍 graduation_cap/mortar_board 🎓 grapes 🍇",
  " grey_exclamation/white_exclamation_mark ❕ grey_question ❔ grimacing/grimacing_face 😬",
  " grinning 😀 growing_heart/heartpulse 💗 guardsman 💂 guide_dog 🦮 guinea-bissau 🇬🇼 guitar 🎸",
  " gun/pistol 🔫 haircut 💇 hamburger 🍔 hammer 🔨 hamster/hamster_face 🐹 hand ✋ handbag 👜",
  " handshake 🤝 hankey/pile_of_poo/poop/shit 💩 hatching_chick 🐣 headphone/headphones 🎧",
  " hear-no-evil_monkey/hear_no_evil 🙉 heart ❤ hearts ♥ hedgehog 🦔 helicopter 🚁 helm_symbol ⎈",
  " helmet_with_white_cross/rescue_worker’s_helmet ⛑ herb 🌿 hibiscus 🌺",
  " high-heeled_shoe/high_heel 👠 high-speed_train 🚄 high_voltage/zap ⚡ hiking_boot 🥾",
  " hindu_temple 🛕 hippopotamus 🦛 hocho/kitchen_knife/knife 🔪 hole 🕳 honey_pot 🍯",
  " hong_kong_sar_china 🇭🇰 horizontal_traffic_light/traffic_light 🚥 horse/horse_face 🐴 hospital 🏥",
  " hotel 🏨 hotsprings ♨ hourglass ⌛ house 🏠 houses 🏘 hugging_face 🤗 hushed/hushed_face 😯 ice 🧊",
  " icecream/soft_ice_cream 🍦 id/id_button 🆔 ideograph_advantage 🉐 inbox_tray 📥",
  " incoming_envelope 📨 infinity ♾ information ℹ innocent 😇 iphone 📱 izakaya_lantern/lantern 🏮",
  " jack-o-lantern/jack_o_lantern 🎃 japan/map_of_japan 🗾 jeans 👖 jigsaw 🧩 joker 🃏 joy 😂 joy_cat 😹",
  " joystick 🕹 kaaba 🕋 kangaroo 🦘 key 🔑 keyboard ⌨ keycap_0/zero 0️⃣ keycap_1/one 1️⃣",
  " keycap_2/two 2️⃣ keycap_3/three 3️⃣ keycap_6/six 6️⃣ keycap_7/seven 7️⃣ kick_scooter 🛴",
  " kimono 👘 kiss 💋 kissing 😗 kite 🪁 kiwi_fruit 🥝 koala 🐨 koko 🈁 lab_coat 🥼 label 🏷 lacrosse 🥍",
  " last_track_button ⏮ latin_cross ✝ laughing/satisfied 😆 leaf_fluttering_in_wind/leaves 🍃",
  " leafy_green 🥬 ledger 📒 left-right_arrow ↔ leftwards_arrow_with_hook ↩ leg 🦵 lemon 🍋 leo ♌",
  " leopard 🐆 level_slider 🎚 libra ♎ link 🔗 linked_paperclips 🖇 lion_face 🦁 lips/mouth 👄",
  " lipstick 💄 litter_in_bin_sign/put_litter_in_its_place 🚮 lizard 🦎 llama 🦙 lobster 🦞",
  " lock/locked 🔒 lock_with_ink_pen 🔏 locomotive/steam_locomotive 🚂 lollipop 🍭 loop ➿",
  " lotion_bottle 🧴 loud_sound 🔊 loudly_crying_face/sob 😭 loudspeaker 📢 love_hotel 🏩",
  " love_letter 💌 luggage 🧳 lying_face 🤥 macau_sar_china 🇲🇴 mag 🔍 mag_right 🔎 magnet 🧲",
  " mahjong/mahjong_red_dragon 🀄 mailbox 📫 male_sign ♂ mango 🥭 mans_shoe/man’s_shoe/shoe 👞",
  " mantelpiece_clock 🕰 manual_wheelchair 🦽 maple_leaf 🍁 martial_arts_uniform 🥋 mask 😷 massage 💆",
  " mate 🧉 meat_on_bone 🍖 medical_symbol ⚕ mega/megaphone 📣 melon 🍈 memo/pencil 📝",
  " men_with_bunny_ears 👯‍♂️ men_wrestling 🤼‍♂️ menorah/menorah_with_nine_branches 🕎",
  " mens/men’s_room 🚹 metro 🚇 microbe 🦠 microphone 🎤 microscope 🔬 military_medal 🎖 milky_way 🌌",
  " minibus 🚐 moai/moyai 🗿 money-mouth_face 🤑 moneybag 💰 monkey 🐒 monkey_face 🐵 monorail 🚝",
  " moon/waxing_gibbous_moon 🌔 moon_cake 🥮 moon_viewing_ceremony 🎑 mosque 🕌 mosquito 🦟",
  " motor_boat 🛥 motor_scooter 🛵 motorcycle/racing_motorcycle 🏍 motorized_wheelchair 🦼 motorway 🛣",
  " mount_fuji 🗻 mountain ⛰ mouse/mouse_face 🐭 mouse2 🐁 movie_camera 🎥 muscle 💪 mushroom 🍄",
  " mute/muted_speaker 🔇 myanmar_(burma) 🇲🇲 nail_care 💅 name_badge 📛 national_park 🏞",
  " nauseated_face 🤢 nazar_amulet 🧿 necktie 👔 nerd_face 🤓 neutral_face 😐 new/new_button 🆕",
  " newspaper 📰 next_track_button ⏭ ng/ng_button 🆖 night_with_stars 🌃 nine 9️⃣",
  " no_one_under_eighteen/underage 🔞 non-potable_water/non__potable_water 🚱 notebook 📓",
  " notebook_with_decorative_cover 📔 notes 🎶 nut_and_bolt 🔩 o ⭕ o2/o_button_(blood_type) 🅾",
  " ocean 🌊 octopus 🐙 oden 🍢 office/office_building 🏢 ogre 👹 oil_drum 🛢 ok/ok_button 🆗 ok_woman 🙆",
  " old_key 🗝 older_man 👴 older_woman 👵 om/om_symbol 🕉 on/on!_arrow 🔛 one-piece_swimsuit 🩱",
  " onion 🧅 ophiuchus ⛎ orangutan 🦧 orthodox_cross ☦ otter 🦦 outbox_tray 📤 owl 🦉 ox 🐂 oyster 🦪",
  " p_button/parking 🅿 package 📦 page_facing_up 📄 page_with_curl 📃 pager 📟 paintbrush 🖌",
  " palm_tree 🌴 pancakes 🥞 panda_face 🐼 paperclip 📎 parrot 🦜 part_alternation_mark 〽",
  " partly_sunny ⛅ party_popper/tada 🎉 partying_face 🥳 passenger_ship 🛳 passport_control 🛂",
  " pause_button ⏸ peace_symbol ☮ peach 🍑 peacock 🦚 peanuts 🥜 pear 🍐 pen 🖊 pencil2 ✏ penguin 🐧",
  " pensive/pensive_face 😔 performing_arts 🎭 persevere/persevering_face 😣 petri_dish 🧫",
  " phone/telephone ☎ pick ⛏ pie 🥧 pig/pig_face 🐷 pig2 🐖 pig_nose 🐽 pill 💊 pinching_hand 🤏",
  " pineapple 🍍 ping_pong/table_tennis_paddle_and_ball 🏓 pirate_flag 🏴‍☠️ pisces ♓ pizza 🍕",
  " place_of_worship 🛐 play_button ▶ play_or_pause_button ⏯ pleading_face 🥺 police_car 🚓",
  " police_car_light/rotating_light 🚨 poodle 🐩 popcorn 🍿 post_office 🏣 postal_horn 📯 postbox 📮",
  " pot_of_food/stew 🍲 potable_water 🚰 potato 🥔 poultry_leg 🍗 pound/pound_banknote 💷 pray 🙏",
  " prayer_beads 📿 pretzel 🥨 printer 🖨 probing_cane 🦯 prohibited 🚫 purse 👛 pushpin 📌",
  " question/question_mark ❓ rabbit/rabbit_face 🐰 rabbit2 🐇 raccoon 🦝 racehorse 🐎 racing_car 🏎",
  " radio 📻 radio_button 🔘 radioactive/radioactive_sign ☢ rage 😡 rainbow 🌈 rainbow_flag 🏳️‍🌈",
  " raised_hands 🙌 raising_hand 🙋 ram 🐏 ramen/steaming_bowl 🍜 rat 🐀 razor 🪒 receipt 🧾",
  " record_button ⏺ recycle/recycling_symbol ♻ registered ® relaxed ☺ relieved/relieved_face 😌",
  " reminder_ribbon 🎗 repeat 🔁 restroom 🚻 reverse_button ◀",
  " reversed_hand_with_middle_finger_extended 🖕 revolving_hearts 💞 rewind ⏪ rhinoceros 🦏 ribbon 🎀",
  " ring 💍 ringed_planet 🪐 roasted_sweet_potato/sweet_potato 🍠 robot/robot_face 🤖 rocket 🚀",
  " roll_of_paper 🧻 rolled-up_newspaper/rolled__up_newspaper 🗞 roller_coaster 🎢",
  " rolling_on_the_floor_laughing 🤣 rooster 🐓 rose 🌹 rosette 🏵 round_pushpin 📍 rowboat 🚣",
  " rugby_football 🏉 runner/running 🏃 sa 🈂 sad_but_relieved_face 😥 sagittarius ♐ sake 🍶 salt 🧂",
  " sandal 👡 sandwich 🥪 santa 🎅 sari 🥻 satellite/satellite_antenna 📡 sauropod 🦕 saxophone 🎷",
  " scarf 🧣 school 🏫 scissors ✂ scorpio/scorpius ♏ scorpion 🦂 scotland 🏴󠁧󠁢󠁳󠁣󠁴󠁿 scream 😱",
  " scream_cat/weary_cat_face 🙀 scroll 📜 seat 💺 secret ㊙ see-no-evil_monkey/see_no_evil 🙈",
  " seedling 🌱 service_dog 🐕‍🦺 shallow_pan_of_food 🥘 shamrock ☘ shark 🦈 shaved_ice 🍧 shell 🐚",
  " shield 🛡 shinto_shrine ⛩ ship 🚢 shirt/t-shirt/tshirt 👕 shooting_star/stars 🌠 shorts 🩳",
  " shower 🚿 shrimp 🦐 shuffle_tracks_button/twisted_rightwards_arrows 🔀 shushing_face 🤫",
  " skateboard 🛹 ski/skis 🎿 skier ⛷ skull 💀 skull_and_crossbones ☠ skunk 🦨 sled 🛷",
  " sleeping/sleeping_face 😴 sleeping_accommodation 🛌 sleepy/sleepy_face 😪 sleuth_or_spy 🕵",
  " slot_machine 🎰 sloth 🦥 smile 😄 smile_cat 😸 smiley 😃 smiley_cat 😺 smirk/smirking_face 😏",
  " smirk_cat 😼 snail 🐌 snake 🐍 sneezing_face 🤧 snow-capped_mountain/snow_capped_mountain 🏔",
  " snowflake ❄ snowman ☃ snowman_without_snow ⛄ soap 🧼 soccer/soccer_ball ⚽ socks 🧦 softball 🥎",
  " soon/soon_arrow 🔜 sos/sos_button 🆘 sound 🔉 spade_suit/spades ♠ spaghetti 🍝 sparkle ❇",
  " sparkler 🎇 sparkles ✨ sparkling_heart 💖 speak-no-evil_monkey/speak_no_evil 🙊 speaker 🔈",
  " speech_balloon 💬 speedboat 🚤 spider 🕷 spider_web 🕸 sponge 🧽 spoon 🥄 sport_utility_vehicle 🚙",
  " sports_medal 🏅 spouting_whale/whale 🐳 squid 🦑 squinting_face_with_tongue 😝 stadium 🏟 star ⭐",
  " star-struck 🤩 star_and_crescent ☪ star_of_david ✡ station 🚉 statue_of_liberty 🗽 stethoscope 🩺",
  " stop_button ⏹ stop_sign 🛑 stopwatch ⏱ straight_ruler 📏 strawberry 🍓 studio_microphone 🎙",
  " stuffed_flatbread 🥙 sun/sunny ☀ sun_with_face 🌞 sunflower 🌻 sunglasses 😎 sunrise 🌅",
  " sunrise_over_mountains 🌄 superhero 🦸 supervillain 🦹 surfer 🏄 sushi 🍣 suspension_railway 🚟",
  " swan 🦢 swimmer 🏊 symbols 🔣 synagogue 🕍 syringe 💉 t-rex 🦖 taco 🌮 takeout_box 🥡 tanabata_tree 🎋",
  " tangerine 🍊 taurus ♉ taxi 🚕 tea/teacup_without_handle 🍵 teddy_bear 🧸 telephone_receiver 📞",
  " telescope 🔭 television/tv 📺 ten 🔟 tennis 🎾 tent ⛺ test_tube 🧪 thermometer 🌡 thinking_face 🤔",
  " thought_balloon 💭 thread 🧵 thunder_cloud_and_rain ⛈ ticket 🎫 tiger/tiger_face 🐯 tiger2 🐅",
  " timer_clock ⏲ timor-leste 🇹🇱 tired_face 😫 tm/trade_mark ™ toilet 🚽 tokyo_tower 🗼 tomato 🍅",
  " tongue 👅 toolbox 🧰 tooth 🦷 top/top_arrow 🔝 top_hat/tophat 🎩 tornado 🌪 trackball 🖲 tractor 🚜",
  " train/tram_car 🚋 train2 🚆 tram 🚊 trident/trident_emblem 🔱 triumph 😤 trolleybus 🚎 trophy 🏆",
  " trumpet 🎺 tulip 🌷 tumbler_glass 🥃 turkey 🦃 turtle 🐢 u5272 🈹 u5408 🈴 u55b6 🈺 u6307 🈯 u6708 🈷",
  " u6709 🈶 u6e80 🈵 u7121 🈚 u7533 🈸 u7981 🈲 u7a7a 🈳 umbrella ☂ unamused/unamused_face 😒",
  " unicorn_face 🦄 united_nations 🇺🇳 unlock/unlocked 🔓 up/up!_button 🆙 up-down_arrow ↕",
  " up-left_arrow ↖ up-right_arrow ↗ up_arrow ⬆ upside-down_face/upside__down_face 🙃",
  " upwards_button 🔼 v ✌ vertical_traffic_light 🚦 vhs/videocassette 📼 vibration_mode 📳 violin 🎻",
  " virgo ♍ volcano 🌋 volleyball 🏐 vs/vs_button 🆚 waffle 🧇 wales 🏴󠁧󠁢󠁷󠁬󠁳󠁿 walking 🚶 warning ⚠",
  " wastebasket 🗑 watch ⌚ watermelon 🍉 wave 👋 wavy_dash 〰 waxing_crescent_moon 🌒 wc 🚾",
  " weary/weary_face 😩 wedding 💒 weight_lifter 🏋 whale2 🐋 wheel_of_dharma ☸",
  " wheelchair/wheelchair_symbol ♿ wilted_flower 🥀 wine_glass 🍷 wink 😉 wolf/wolf_face 🐺",
  " woman_genie 🧞‍♀️ womens/women’s_room 🚺 woozy_face 🥴 world_map 🗺 worried/worried_face 😟",
  " wrench 🔧 yarn 🧶 yawning_face 🥱 yen/yen_banknote 💴 yin_yang ☯ yo-yo 🪀 yum 😋 zany_face 🤪",
  " zebra 🦓 zipper-mouth_face/zipper__mouth_face 🤐 zombie 🧟 zzz 💤",
  "airplane_ arrival/arriving 🛬 departure 🛫",
  "arrow_ backward ◀ double_down ⏬ double_up ⏫ down ⬇ down_small 🔽 forward ▶ left ⬅ lower_left ↙",
  "arrow_ lower_right ↘ right ➡ right_hook ↪ up ⬆ up_down ↕ up_small 🔼 upper_left ↖ upper_right ↗",
  "arrow_heading_ down ⤵ up ⤴",
  "arrows_ clockwise 🔃 counterclockwise 🔄",
  "baby_ bottle 🍼 chick 🐤 symbol 🚼",
  "ballot_box_with_ ballot 🗳 check ☑",
  "black_ circle ⚫ circle_for_record ⏺ flag 🏴 heart 🖤 joker 🃏 large_square ⬛",
  "black_ left__pointing_double_triangle_with_vertical_bar ⏮ medium-small_square ◾ nib ✒",
  "black_ small_square ▪ square_button 🔲 square_for_stop ⏹",
  "black_medium_ small_square ◾ square ◼",
  "black_right__pointing_ double_triangle_with_vertical_bar ⏭ triangle_with_double_vertical_bar ⏯",
  "blue_ book 📘 car 🚙 circle 🔵 heart 💙 square 🟦",
  "brown_ circle 🟤 heart 🤎 square 🟫",
  "bullettrain_ front 🚅 side 🚄",
  "card_ file_box 🗃 index 📇 index_dividers 🗂",
  "cat_face_with_ tears_of_joy 😹 wry_smile 😼",
  "chart_ decreasing/with_downwards_trend 📉 increasing/with_upwards_trend 📈 increasing_with_yen 💹",
  "clinking_ beer_mugs 🍻 glasses 🥂",
  "closed_ book 📕 lock_with_key 🔐 umbrella 🌂",
  "closed_mailbox_with_ lowered_flag 📪 raised_flag 📫",
  "cloud_with_ lightning 🌩 lightning_and_rain ⛈ rain 🌧 snow 🌨 tornado 🌪",
  "congo_-_ brazzaville 🇨🇬 kinshasa 🇨🇩",
  "couple_with_ heart 💑 heart_man_man 👨‍❤️‍👨 heart_woman_man 👩‍❤️‍👨 heart_woman_woman 👩‍❤️‍👩",
  "cricket_ bat_and_ball/game 🏏",
  "crossed_ flags 🎌 swords ⚔",
  "curly-haired_ man 👨‍🦱 woman 👩‍🦱",
  "derelict_ house/house_building 🏚",
  "diamond_ shape_with_a_dot_inside/with_a_dot 💠 suit ♦",
  "disappointed_ face 😞 relieved 😥",
  "double_ curly_loop ➿ exclamation_mark ‼ vertical_bar ⏸",
  "earth_ africa 🌍 americas 🌎 asia 🌏",
  "eject_ button/symbol ⏏",
  "emoji_modifier_fitzpatrick_type__ 1__2 🏻 3 🏼 4 🏽 5 🏾 6 🏿",
  "european_ castle 🏰 post_office 🏤",
  "face_ blowing_a_kiss 😘 savoring_food 😋 screaming_in_fear 😱 vomiting 🤮 without_mouth 😶",
  "face_with_ hand_over_mouth 🤭 head-bandage/head__bandage 🤕 medical_mask 😷 monocle 🧐",
  "face_with_ open_mouth 😮 raised_eyebrow 🤨 rolling_eyes 🙄 steam_from_nose 😤 symbols_on_mouth 🤬",
  "face_with_ tears_of_joy 😂 thermometer 🤒 tongue 😛",
  "family_man_ boy 👨‍👦 boy_boy 👨‍👦‍👦 girl 👨‍👧 girl_boy 👨‍👧‍👦 girl_girl 👨‍👧‍👧",
  "family_man_man_ boy 👨‍👨‍👦 boy_boy 👨‍👨‍👦‍👦 girl 👨‍👨‍👧 girl_boy 👨‍👨‍👧‍👦 girl_girl 👨‍👨‍👧‍👧",
  "family_man_woman_ boy 👨‍👩‍👦 boy_boy 👨‍👩‍👦‍👦 girl 👨‍👩‍👧 girl_boy 👨‍👩‍👧‍👦 girl_girl 👨‍👩‍👧‍👧",
  "family_woman_ boy 👩‍👦 boy_boy 👩‍👦‍👦 girl 👩‍👧 girl_boy 👩‍👧‍👦 girl_girl 👩‍👧‍👧",
  "family_woman_woman_ boy 👩‍👩‍👦 boy_boy 👩‍👩‍👦‍👦 girl 👩‍👩‍👧 girl_boy 👩‍👩‍👧‍👦 girl_girl 👩‍👩‍👧‍👧",
  "fast_ down_button ⏬ forward ⏩ reverse_button ⏪ up_button ⏫",
  "field_ hockey/hockey_stick_and_ball 🏑",
  "film_ frames 🎞 projector 📽",
  "first_quarter_ moon 🌓 moon_face/moon_with_face 🌛",
  "fishing_ pole/pole_and_fish 🎣",
  "flag_for_ cocos__islands 🇨🇨 czech_republic 🇨🇿 guinea__bissau 🇬🇼 hong_kong 🇭🇰 japan 🇯🇵 macau 🇲🇴",
  "flag_for_ myanmar 🇲🇲 timor__leste 🇹🇱 turkey 🇹🇷",
  "flag_for_congo____ brazzaville 🇨🇬 kinshasa 🇨🇩",
  "flying_ disc 🥏 saucer 🛸",
  "fork_and_ knife 🍴 knife_with_plate 🍽",
  "frowning_ face ☹ face_with_open_mouth 😦",
  "full_ moon 🌕 moon_face/moon_with_face 🌝",
  "globe_showing_ americas 🌎 asia-australia 🌏 europe-africa 🌍",
  "green_ apple 🍏 book 📗 circle 🟢 heart 💚 salad 🥗 square 🟩",
  "grinning_ cat_face 😺 cat_face_with_smiling_eyes 😸 face 😀 squinting_face 😆",
  "grinning_face_with_ big_eyes 😃 smiling_eyes 😄 sweat 😅",
  "hammer_and_ pick ⚒ wrench 🛠",
  "heart_ decoration 💟 eyes 😍 eyes_cat 😻 suit ♥ with_arrow 💘 with_ribbon 💝",
  "heavy_ check_mark ✔ division_sign ➗ dollar_sign 💲 exclamation_mark ❗ large_circle ⭕",
  "heavy_ minus_sign ➖ multiplication_x ✖ plus_sign ➕",
  "heavy_heart_ exclamation/exclamation_mark_ornament ❣",
  "hot_ beverage ☕ dog 🌭 face 🥵 pepper 🌶 springs ♨",
  "hourglass_ done ⌛ flowing_sand/not_done ⏳",
  "house_ buildings 🏘 with_garden 🏡",
  "ice_ cream 🍨 hockey/hockey_stick_and_puck 🏒 skate ⛸",
  "information_ desk_person 💁 source ℹ",
  "input_ latin_letters 🔤 latin_lowercase 🔡 latin_uppercase 🔠 numbers 🔢 symbols 🔣",
  "japanese_ acceptable_button 🉑 application_button 🈸 bargain_button 🉐 castle 🏯 discount_button 🈹",
  "japanese_ dolls 🎎 free_of_charge_button 🈚 goblin 👺 here_button 🈁 monthly_amount_button 🈷",
  "japanese_ no_vacancy_button 🈵 not_free_of_charge_button 🈶 ogre 👹 open_for_business_button 🈺",
  "japanese_ passing_grade_button 🈴 post_office 🏣 prohibited_button 🈲 reserved_button 🈯",
  "japanese_ secret_button ㊙ service_charge_button 🈂 symbol_for_beginner 🔰 vacancy_button 🈳",
  "keycap_ # #️⃣ * *️⃣ 10 🔟 4 4️⃣ 8 8️⃣ 9 9️⃣ asterisk *⃣ number_sign #⃣",
  "keycap_digit_ eight 8⃣ five 5⃣ four 4⃣ nine 9⃣ one 1⃣ seven 7⃣ six 6⃣ three 3⃣ two 2⃣ zero 0⃣",
  "kiss_ man_man 👨‍❤️‍💋‍👨 mark 💋 woman_man 👩‍❤️‍💋‍👨 woman_woman 👩‍❤️‍💋‍👩",
  "kissing_ cat/cat_face 😽 closed_eyes/face_with_closed_eyes 😚 face 😗",
  "kissing_ face_with_smiling_eyes/smiling_eyes 😙 heart 😘",
  "large_ blue_circle 🔵 blue_diamond 🔷 orange_diamond 🔶",
  "last_quarter_ moon 🌗 moon_face/moon_with_face 🌜",
  "left_ arrow ⬅ arrow_curving_right ↪ luggage 🛅 right_arrow ↔ speech_bubble 🗨",
  "light_ bulb 💡 rail 🚈 skin_tone 🏻",
  "locked_with_ key 🔐 pen 🔏",
  "lower_left_ ballpoint_pen 🖊 crayon 🖍 fountain_pen 🖋 paintbrush 🖌",
  "magnifying_glass_tilted_ left 🔍 right 🔎",
  "mailbox_ closed 📪 with_mail 📬 with_no_mail 📭",
  "man_ genie 🧞‍♂️ zombie 🧟‍♂️",
  "man_in_ business_suit_levitating 🕴 manual_wheelchair 👨‍🦽 motorized_wheelchair 👨‍🦼",
  "man_with_ gua_pi_mao 👲 probing_cane 👨‍🦯 turban 👳",
  "mechanical_ arm 🦾 leg 🦿",
  "medium_ dark_skin_tone 🏾 light_skin_tone 🏼 skin_tone 🏽",
  "mobile_ phone 📱 phone_off 📴 phone_with_arrow 📲",
  "money_ _mouth_face 🤑 bag 💰 with_wings 💸",
  "mountain_ bicyclist 🚵 cableway 🚠 railway 🚞",
  "musical_ keyboard 🎹 note 🎵 notes 🎶 score 🎼",
  "new_ moon 🌑 moon_face/moon_with_face 🌚",
  "no_ bicycles 🚳 entry ⛔ entry_sign 🚫 good 🙅 mobile_phones 📵 mouth 😶 pedestrians 🚷 smoking 🚭",
  "oncoming_ automobile 🚘 bus 🚍 police_car 🚔 taxi 🚖",
  "open_ book 📖 file_folder 📂 mouth 😮",
  "open_mailbox_with_ lowered_flag 📭 raised_flag 📬",
  "orange_ book 📙 circle 🟠 heart 🧡 square 🟧",
  "people_ holding_hands 🧑‍🤝‍🧑 with_bunny_ears 👯 wrestling 🤼",
  "person_ fencing 🤺 kneeling 🧎 standing 🧍 with_ball ⛹ with_blond_hair 👱 with_pouting_face 🙎",
  "point_ down 👇 left 👈 right 👉 up ☝ up_2 👆",
  "pouting_ cat/cat_face 😾 face 😡",
  "purple_ circle 🟣 heart 💜 square 🟪",
  "railway_ car 🚃 track 🛤",
  "raised_hand_with_ fingers_splayed 🖐 part_between_middle_and_ring_fingers 🖖",
  "red-haired_ man 👨‍🦰 woman 👩‍🦰",
  "red_ apple 🍎 circle 🔴 envelope 🧧 hair 🦰 heart ❤ paper_lantern 🏮 square 🟥",
  "red_triangle_pointed_ down 🔻 up 🔺",
  "regional_indicator_ a 🇦 b 🇧 c 🇨 d 🇩 e 🇪 f 🇫 g 🇬 h 🇭 i 🇮 j 🇯 k 🇰 l 🇱 m 🇲 n 🇳 o 🇴 p 🇵 q 🇶 r 🇷",
  "regional_indicator_ s 🇸 t 🇹 u 🇺 v 🇻 w 🇼 x 🇽 y 🇾 z 🇿",
  "regional_indicator_symbol_letter_ a 🇦 b 🇧 c 🇨 d 🇩 e 🇪 f 🇫 g 🇬 h 🇭 i 🇮 j 🇯 k 🇰 l 🇱 m 🇲 n 🇳 o 🇴",
  "regional_indicator_symbol_letter_ p 🇵 q 🇶 r 🇷 s 🇸 t 🇹 u 🇺 v 🇻 w 🇼 x 🇽 y 🇾 z 🇿",
  "repeat_ button 🔁 one/single_button 🔂",
  "rice_ ball 🍙 cracker 🍘 scene 🎑",
  "right_ anger_bubble 🗯 arrow ➡",
  "right_arrow_curving_ down ⤵ left ↩ up ⤴",
  "running_ shirt/shirt_with_sash 🎽 shoe 👟",
  "safety_ pin 🧷 vest 🦺",
  "school_ backpack/satchel 🎒",
  "shopping_ bags 🛍 cart 🛒",
  "slightly_ frowning_face 🙁 smiling_face 🙂",
  "small_ airplane 🛩 blue_diamond 🔹 orange_diamond 🔸 red_triangle 🔺 red_triangle_down 🔻",
  "smiling_ cat_face_with_heart-eyes 😻 face ☺ imp 😈",
  "smiling_face_with_ 3_hearts 🥰 halo 😇 heart-eyes 😍 horns 😈 smiling_eyes 😊 sunglasses 😎",
  "speaker_ high_volume 🔊 low_volume 🔈 medium_volume 🔉",
  "speaking_ head/head_in_silhouette 🗣",
  "spiral_ calendar/calendar_pad 🗓 note_pad/notepad 🗒 shell 🐚",
  "stuck_out_ tongue 😛 tongue_closed_eyes 😝 tongue_winking_eye 😜",
  "sun_behind_ cloud ⛅ large_cloud 🌥 rain_cloud 🌦 small_cloud 🌤",
  "sweat_ droplets/drops 💦 smile 😅",
  "triangular_ flag/flag_on_post 🚩 ruler 📐",
  "tropical_ drink 🍹 fish 🐠",
  "two_ hearts 💕 men_holding_hands 👬 women_holding_hands 👭",
  "umbrella_ on_ground ⛱ with_rain_drops ☔",
  "video_ camera 📹 game 🎮",
  "waning_ crescent_moon 🌘 gibbous_moon 🌖",
  "water_ buffalo 🐃 closet 🚾 wave 🌊",
  "waving_ black_flag 🏴 white_flag 🏳",
  "white-haired_ man 👨‍🦳 woman 👩‍🦳",
  "white_ check_mark/heavy_check_mark ✅ circle ⚪ flag 🏳 flower 💮 frowning_face ☹ hair 🦳 heart 🤍",
  "white_ large_square ⬜ medium-small_square ◽ question_mark ❔ small_square ▫ square_button 🔳",
  "white_medium_ small_square ◽ square ◻ star ⭐",
  "white_sun_ behind_cloud 🌥 behind_cloud_with_rain 🌦 with_small_cloud 🌤",
  "wind_ blowing_face/face 🌬 chime 🎐",
  "winking_ face 😉 face_with_tongue 😜",
  "woman_ in_manual_wheelchair 👩‍🦽 in_motorized_wheelchair 👩‍🦼 with_probing_cane 👩‍🦯 zombie 🧟‍♀️",
  "womans_ clothes 👚 hat 👒",
  "woman’s_ boot 👢 clothes 👚 hat 👒 sandal 👡",
  "women_ with_bunny_ears 👯‍♀️ wrestling 🤼‍♀️",
  "yellow_ circle 🟡 heart 💛 square 🟨"]

def people : List String := [
  " adult 🧑 baby 👶 baby_angel 👼",
  "backhand_index_pointing_ down 👇 left 👈 right 👉 up 👆",
  "bearded_ person 🧔",
  "blond-haired_ man 👱‍♂️ person 👱 woman 👱‍♀️",
  " boy 👦 breast-feeding 🤱 bride_with_veil 👰",
  " call_me_hand 🤙 child 🧒 clapping_hands 👏 construction_worker 👷 crossed_fingers 🤞 detective 🕵",
  " ear 👂 elf 🧝 fairy 🧚 flexed_biceps 💪 folded_hands 🙏 girl 👧 guard 💂 hand_with_fingers_splayed 🖐",
  " horse_racing 🏇 index_pointing_up ☝ left-facing_fist 🤛 love-you_gesture 🤟 mage 🧙 man 👨",
  "man_ artist 👨‍🎨 astronaut 👨‍🚀 biking 🚴‍♂️ bouncing_ball ⛹️‍♂️ bowing 🙇‍♂️ cartwheeling 🤸‍♂️",
  "man_ climbing 🧗‍♂️ construction_worker 👷‍♂️ cook 👨‍🍳 dancing 🕺 detective 🕵️‍♂️ elf 🧝‍♂️",
  "man_ facepalming 🤦‍♂️ factory_worker 👨‍🏭 fairy 🧚‍♂️ farmer 👨‍🌾 firefighter 👨‍🚒 frowning 🙍‍♂️",
  "man_gesturing_ no 🙅‍♂️ ok 🙆‍♂️",
  "man_ getting_haircut 💇‍♂️ getting_massage 💆‍♂️ golfing 🏌️‍♂️ guard 💂‍♂️ health_worker 👨‍⚕️",
  "man_in_ lotus_position 🧘‍♂️ steamy_room 🧖‍♂️ suit_levitating 🕴 tuxedo 🤵",
  "man_ judge 👨‍⚖️ juggling 🤹‍♂️",
  "man_ lifting_weights 🏋️‍♂️ mage 🧙‍♂️ mechanic 👨‍🔧 mountain_biking 🚵‍♂️ office_worker 👨‍💼",
  "man_ pilot 👨‍✈️ playing_handball 🤾‍♂️ playing_water_polo 🤽‍♂️ police_officer 👮‍♂️",
  "man_ pouting 🙎‍♂️ raising_hand 🙋‍♂️ rowing_boat 🚣‍♂️ running 🏃‍♂️ scientist 👨‍🔬 shrugging 🤷‍♂️",
  "man_ singer 👨‍🎤 student 👨‍🎓 surfing 🏄‍♂️ swimming 🏊‍♂️ teacher 👨‍🏫 technologist 👨‍💻",
  "man_ tipping_hand 💁‍♂️ vampire 🧛‍♂️ walking 🚶‍♂️ wearing_turban 👳‍♂️ with_chinese_cap 👲",
  " mermaid 🧜‍♀️ merman 🧜‍♂️ merperson 🧜 middle_finger 🖕 mrs._claus 🤶 nail_polish 💅 nose 👃",
  " ok_hand 👌 old_man 👴 old_woman 👵 older_adult 🧓 oncoming_fist 👊 open_hands 👐 palms_up_together 🤲",
  "person_ biking 🚴 bouncing_ball ⛹ bowing 🙇 cartwheeling 🤸 climbing 🧗 facepalming 🤦 frowning 🙍",
  "person_ gesturing_no 🙅 gesturing_ok 🙆 getting_haircut 💇 getting_massage 💆 golfing 🏌 in_bed 🛌",
  "person_ in_lotus_position 🧘 in_steamy_room 🧖 juggling 🤹 lifting_weights 🏋 mountain_biking 🚵",
  "person_ playing_handball 🤾 playing_water_polo 🤽 pouting 🙎 raising_hand 🙋 rowing_boat 🚣 running 🏃",
  "person_ shrugging 🤷 surfing 🏄 swimming 🏊 taking_bath 🛀 tipping_hand 💁 walking 🚶 wearing_turban 👳",
  " police_officer 👮 pregnant_woman 🤰 prince 🤴 princess 👸",
  "raised_ back_of_hand 🤚 fist ✊ hand ✋",
  " raising_hands 🙌 right-facing_fist 🤜 santa_claus 🎅 selfie 🤳 sign_of_the_horns 🤘 snowboarder 🏂",
  " thumbs_down 👎 thumbs_up 👍 vampire 🧛 victory_hand ✌ vulcan_salute 🖖 waving_hand 👋 woman 👩",
  "woman_ dancing 💃 with_headscarf 🧕",
  "writing_ hand ✍"]

def countries : List String := [
  " afghanistan AF albania AL algeria DZ",
  " american_samoa AS andorra AD angola AO anguilla AI antarctica AQ antigua_&_barbuda AG",
  " argentina AR armenia AM aruba AW ascension_island AC australia AU austria AT azerbaijan AZ",
  " bahamas BS bahrain BH bangladesh BD barbados BB belarus BY belgium BE belize BZ benin BJ",
  " bermuda BM bhutan BT bolivia BO bosnia_&_herzegovina BA botswana BW bouvet_island BV brazil BR",
  "british_ indian_ocean_territory IO virgin_islands VG",
  " brunei BN",
  " bulgaria BG burkina_faso BF burundi BI cambodia KH cameroon CM canada CA canary_islands IC",
  " cape_verde CV caribbean_netherlands BQ cayman_islands KY central_african_republic CF",
  " ceuta_&_melilla EA chad TD chile CL china CN christmas_island CX clipperton_island CP",
  " colombia CO comoros KM cook_islands CK costa_rica CR croatia HR cuba CU curaçao CW cyprus CY",
  " côte_d’ivoire CI denmark DK diego_garcia DG djibouti DJ dominica DM dominican_republic DO",
  " ecuador EC egypt EG el_salvador SV equatorial_guinea GQ eritrea ER estonia EE",
  " ethiopia ET european_union EU falkland_islands FK faroe_islands FO fiji FJ finland FI france FR",
  "french_ guiana GF polynesia PF southern_territories TF",
  " gabon GA gambia GM georgia GE",
  " germany DE ghana GH gibraltar GI greece GR greenland GL grenada GD guadeloupe GP guam GU",
  " guatemala GT guernsey GG guinea GN guyana GY haiti HT heard_&_mcdonald_islands HM honduras HN",
  " hungary HU iceland IS india IN indonesia ID iran IR iraq IQ ireland IE isle_of_man IM",
  " israel IL italy IT jamaica JM jersey JE jordan JO kazakhstan KZ kenya KE kiribati KI",
  " kosovo XK kuwait KW kyrgyzstan KG laos LA latvia LV lebanon LB lesotho LS liberia LR libya LY",
  " liechtenstein LI lithuania LT luxembourg LU macedonia MK madagascar MG malawi MW malaysia MY",
  " maldives MV mali ML malta MT marshall_islands MH martinique MQ mauritania MR mauritius MU",
  " mayotte YT mexico MX micronesia FM moldova MD monaco MC mongolia MN montenegro ME montserrat MS",
  " morocco MA mozambique MZ namibia NA nauru NR nepal NP netherlands NL new_caledonia NC",
  " new_zealand NZ nicaragua NI niger NE nigeria NG niue NU norfolk_island NF north_korea KP",
  " northern_mariana_islands MP norway NO oman OM pakistan PK palau PW palestinian_territories PS",
  " panama PA papua_new_guinea PG paraguay PY peru PE philippines PH pitcairn_islands PN",
  " poland PL portugal PT puerto_rico PR qatar QA romania RO russia RU rwanda RW réunion RE",
  " samoa WS san_marino SM saudi_arabia SA senegal SN serbia RS seychelles SC sierra_leone SL",
  " singapore SG sint_maarten SX slovakia SK slovenia SI solomon_islands SB somalia SO",
  "south_ africa ZA georgia_&_south_sandwich_islands GS korea KR sudan SS",
  " spain ES sri_lanka LK",
  "st._ barthélemy BL helena SH kitts_&_nevis KN lucia LC martin MF pierre_&_miquelon PM",
  " st._vincent_&_grenadines VC sudan SD suriname SR",
  " svalbard_&_jan_mayen SJ swaziland SZ sweden SE switzerland CH syria SY são_tomé_&_príncipe ST",
  " taiwan TW tajikistan TJ tanzania TZ thailand TH togo TG tokelau TK tonga TO",
  " trinidad_&_tobago TT tristan_da_cunha TA tunisia TN turkmenistan TM turks_&_caicos_islands TC",
  " tuvalu TV u.s._outlying_islands UM u.s._virgin_islands VI uganda UG ukraine UA",
  "united_ arab_emirates AE kingdom GB states US",
  " uruguay UY uzbekistan UZ vanuatu VU vatican_city VA venezuela VE",
  " vietnam VN wallis_&_futuna WF western_sahara EH yemen YE zambia ZM zimbabwe ZW åland_islands AX"]

def tones : List (String × Nat) :=
  [("_light_skin_tone", 0x1f3fb), ("_medium-light_skin_tone", 0x1f3fc),
    ("_medium_skin_tone", 0x1f3fd), ("_medium-dark_skin_tone", 0x1f3fe),
    ("_dark_skin_tone", 0x1f3ff)]

def among (beginning name : String) : List String → Option String
  | endings :: sign :: rest =>
    if (endings.splitOn "/").any (beginning ++ · == name) then some sign
    else among beginning name rest
  | _ => none

def lookup (lines : List String) (name : String) : Option String :=
  lines.findSome? fun line =>
    match line.splitOn " " with
    | beginning :: words => among beginning name words
    | [] => none

/-- The sign of a woman in place of that of a man. -/
def female (c : Char) : Char := if c == '👨' then '👩' else if c == '♂' then '♀' else c

/-- The emoji of a person. Where that of a man has a sign for this, there is one of a woman. -/
def person? (name : String) : Option String :=
  (lookup people name).or <|
    if name.startsWith "woman_" then
      (lookup people (name.drop 2).toString).bind fun emoji =>
        if emoji.map female == emoji then none else some (emoji.map female)
    else none

def flag? (name : String) : Option String :=
  let country := if name.startsWith "flag_for_" then (name.drop 9).toString else name
  (lookup countries country).map (·.map fun c => Char.ofNat (c.toNat + 0x1f1a5))

/-- An emoji in a tone of skin. The tone follows the first character, and takes the place of the
choice of a picture. -/
def inTone (tone : Nat) (emoji : String) : String :=
  match emoji.toList with
  | c :: rest =>
    let rest := if rest.head? == some (Char.ofNat 0xfe0f) then rest.tail else rest
    String.ofList (c :: Char.ofNat tone :: rest)
  | [] => emoji

def cut? (ending : String) (name : List Char) : Option (List Char) :=
  if ending.toList.isSuffixOf name then some (name.take (name.length - ending.length)) else none

def find? (name : String) : Option String :=
  (((lookup table name).or (person? name)).or (flag? name)).or <| tones.findSome? fun t =>
    ((cut? t.1 name.toList).bind fun bare => person? (String.ofList bare)).map (inTone t.2)

/-- The small form of a letter. The names have no letters but those of ASCII and Latin-1, and these
are all the characters whose small form is one of them. -/
def small (c : Char) : Char :=
  let n := c.toNat
  if 0xc0 ≤ n && n ≤ 0xde && n != 0xd7 then Char.ofNat (n + 32)
  else if n == 0x212a then 'k'
  else if n == 0x212b then 'å'
  else c.toLower

def variant (name : List Char) : List Char × List Char :=
  match cut? "-emoji" name, cut? "-text" name with
  | some bare, _ => (bare, [Char.ofNat 0xfe0f])
  | none, some bare => (bare, [Char.ofNat 0xfe0e])
  | none, none => (name, [])

def name? (s : List Char) : Option (List Char) :=
  let name := s.takeWhile fun c => c != ':' && !Text.isBlank c
  match s.drop name.length with
  | ':' :: _ => some name
  | _ => none

/-- What stands for a name between colons: its emoji, or just the same. -/
def shown (name : List Char) : List Char :=
  let (bare, choice) := variant name
  match find? (String.ofList (bare.map small)) with
  | some emoji => emoji.toList ++ choice
  | none => ':' :: name ++ [':']

/-- A text with emoji for their names, after `skip` characters of it. -/
def replaceFrom : Nat → List Char → List Char
  | _, [] => []
  | skip + 1, _ :: rest => replaceFrom skip rest
  | 0, c :: rest =>
    if c == ':' then
      match name? rest with
      | some name => shown name ++ replaceFrom (name.length + 1) rest
      | none => c :: replaceFrom 0 rest
    else c :: replaceFrom 0 rest

def replace (s : List Char) : List Char := replaceFrom 0 s

end JobMatrix.Markup.Emoji
